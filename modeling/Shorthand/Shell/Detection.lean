import Shorthand.Digest.Blake3
import Shorthand.Shell.Kind
import Shorthand.SortedMap
import Shorthand.Text.Bytes
/-!
Which shell the user types into, told from the environment. A detector keeps its last answer
together with a fingerprint of the variables that matter, and trusts it while the fingerprint stays
the same.
-/
set_option autoImplicit false

namespace Shorthand

abbrev Environment := SortedMap String

def Environment.has (env : Environment) (name : String) : Bool := (env.get? name).any (!·.isEmpty)

namespace Shell

def fingerprintNames : List String :=
  ["PSModulePath", "POWERSHELL_DISTRIBUTION_CHANNEL", "PSExecutionPolicyPreference", "MSYSTEM",
   "WSL_DISTRO_NAME", "WSL_INTEROP", "SHELL", "ComSpec", "TERM_PROGRAM", "VSCODE_PID", "CI",
   "NX_TASK_HASH", "NX_TASK_TARGET_PROJECT", "NX_WORKSPACE_ROOT"]

def fingerprintPart (env : Environment) (name : String) : List UInt8 :=
  Text.toBytes name ++
    (match env.get? name with
     | some value => Text.toBytes ("=" ++ value)
     | none => Text.toBytes "\x00unset") ++
    Text.toBytes "\n"

def fingerprintInput (env : Environment) : List UInt8 :=
  fingerprintNames.flatMap (fingerprintPart env)

def fingerprint (env : Environment) : String :=
  Digest.hex ((Digest.blake3 (fingerprintInput env)).take 16)

def posixNames : List String := ["bash", "zsh", "sh", "dash", "ksh", "fish", "ash"]

/-- The text without the ending, however often it stands there. The count is the length of the
text. -/
def dropEndings (ending : List Char) : Nat → List Char → List Char
  | 0, s => s
  | n + 1, s =>
    if ending.isSuffixOf s then dropEndings ending n (s.take (s.length - ending.length)) else s

/-- Whether a path names a POSIX shell; its directories and endings `.exe` do not count. -/
def isPosixPath (path : String) : Bool :=
  let name := (path.toList.reverse.takeWhile fun c => c ≠ '/' && c ≠ '\\').reverse
  posixNames.contains (.ofList (dropEndings ".exe".toList name.length name))

def detect (env : Environment) : Shell :=
  if env.has "POWERSHELL_DISTRIBUTION_CHANNEL" || env.has "PSExecutionPolicyPreference" then .pwsh
  else if env.has "MSYSTEM" || env.has "WSL_DISTRO_NAME" || env.has "WSL_INTEROP" then .linux
  else if env.get? "TERM_PROGRAM" = some "vscode" &&
    env.has "PSModulePath" && !env.has "SHELL" then .pwsh
  else if (env.get? "SHELL").any isPosixPath then .linux
  else if env.has "ComSpec" then .cmd
  else .unknown

def isInTask (env : Environment) : Bool :=
  ["NX_TASK_HASH", "NX_TASK_TARGET_PROJECT", "NX_WORKSPACE_ROOT"].any env.contains

end Shell

/-- The last answer with its fingerprint, and how often the environment was examined. -/
structure Detector where
  cache : Option (String × Shell) := none
  examinations : Nat := 0
  deriving DecidableEq, Repr

namespace Detector

def examine (d : Detector) (env : Environment) : Shell × Detector :=
  (Shell.detect env, { d with examinations := d.examinations + 1 })

/-- The answer that is kept, if it has the fingerprint of the environment; otherwise a new one. -/
def answer (d : Detector) (env : Environment) : Shell × Detector :=
  let fingerprint := Shell.fingerprint env
  let fresh : Shell × Detector :=
    let (shell, d) := d.examine env
    (shell, { d with cache := some (fingerprint, shell) })
  match d.cache with
  | some (kept, shell) => if kept = fingerprint then (shell, d) else fresh
  | none => fresh

def clear (d : Detector) : Detector := { d with cache := none }

end Detector

end Shorthand
