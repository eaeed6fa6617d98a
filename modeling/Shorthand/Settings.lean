import Shorthand.Shell.Detection
import Shorthand.Text.Blank
import Shorthand.Words.Split
/-!
Settings from the environment. A value that cannot be used is reported and left aside.
-/
set_option autoImplicit false

namespace Shorthand

/-- As many commands at once as there are processors, or four where their number is not known. -/
def Settings.usualPoolSize (processors : Option Nat) : Nat := processors.getD 4

structure Settings where
  debug : Bool := false
  echo : Bool := false
  /-- How many commands may run at once. -/
  poolSize : Nat := Settings.usualPoolSize none
  /-- The program that runs targets, with its first arguments. -/
  nxCommand : List String := ["npx", "nx"]
  /-- Where to look first for the configuration. -/
  configPath : Option String := none
  deriving DecidableEq, Repr

namespace Settings

def lowered (s : String) : String := .ofList (s.toList.map Char.toLower)

def isTruthy (value : String) : Bool :=
  ["1", "true", "yes", "on"].contains (lowered (Text.trim value))

def sizeLimit : Nat := Nat.pow 2 64

/-- A natural below the limit in decimal digits; a plus sign may stand before it. -/
def natural? (s : String) : Option Nat :=
  let ds := match s.toList with
    | '+' :: r => r
    | r => r
  let n := ds.foldl (fun n c => n * 10 + (c.toNat - 48)) 0
  if !ds.isEmpty && ds.all Char.isDigit && n < sizeLimit then some n else none

inductive Warning where
  | poolSize (value : String)
  | nxCommand (value : String)
  deriving DecidableEq, Repr

def Warning.message : Warning → String
  | poolSize value => "Ignoring PAE_POOL_SIZE='" ++ value ++ "': expected a positive integer."
  | nxCommand value => "Ignoring PAE_NX_COMMAND: could not parse '" ++ value ++ "'."

def asksForDebug (env : Environment) : Bool := (env.get? "PAE_DEBUG").any isTruthy

def asksForEcho (env : Environment) : Bool := (env.get? "PAE_ECHO").any isTruthy

def poolSize? (value : String) : Option Nat := (natural? (Text.trim value)).filter (0 < ·)

def readVariable {α : Type} (env : Environment) (name : String) (default : α)
    (read : String → Option α) (warning : String → Warning) : α × List Warning :=
  match env.get? name with
  | none => (default, [])
  | some raw =>
    match read raw with
    | some value => (value, [])
    | none => (default, [warning raw])

/-- The settings on a machine with so many processors, one if nothing is said of them, with the
warnings about values that cannot be used. -/
def ofEnvironment (env : Environment) (processors : Option Nat := some 1) :
    Settings × List Warning :=
  let defaults : Settings := { poolSize := usualPoolSize processors }
  let (poolSize, sizeWarnings) :=
    readVariable env "PAE_POOL_SIZE" defaults.poolSize poolSize? .poolSize
  let (nxCommand, commandWarnings) :=
    readVariable env "PAE_NX_COMMAND" defaults.nxCommand Words.splitSome .nxCommand
  ({ debug := asksForDebug env
     echo := asksForEcho env
     poolSize
     nxCommand
     configPath := (env.get? "PAE_CONFIG").filter (!Text.isAllBlank ·) },
   sizeWarnings ++ commandWarnings)

end Settings

end Shorthand
