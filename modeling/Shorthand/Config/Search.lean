import Shorthand.Config.Reader
import Shorthand.File.Basic
import Shorthand.File.Path
/-!
Where the configuration is found: at the path that the user gives, in the workspace or in the
directory of the user. The first file that can be read counts; one that cannot is reported and left
aside.
-/
set_option autoImplicit false

namespace Shorthand

inductive LoadError where
  | file (path : String) (cause : FileError)
  | text (path : String) (cause : Json.Located)
  /-- A variable in the path of the user has no value. -/
  | expansion (path : String)
  | notFound (tried : List String)
  deriving DecidableEq, Repr

def LoadError.message : LoadError → String
  | file path cause => "Filesystem Error reading '" ++ path ++ "': " ++ cause.message
  | text path cause => "Error parsing JSON in '" ++ path ++ "': " ++ cause.message
  | expansion path => "Could not expand config path '" ++ path ++ "'."
  | notFound tried =>
    "No usable configuration found. Tried:\n" ++ "\n".intercalate (tried.map ("  - " ++ ·))

namespace Config

def load (files : FileSystem) (path : String) : Except LoadError Config := do
  let text ← (files.read path).mapError (.file path)
  (Config.parse text).mapError (.text path)

end Config

structure ConfigSearch where
  directory : String
  /-- The path that the user gives, with variables. -/
  explicit : Option String := none
  environment : Environment
  deriving DecidableEq

namespace ConfigSearch

def workspacePaths : List String :=
  ["pae.config.json", "libs/project-alias-expander/config.json", ".pae/config.json"]

def userDirectory? (env : Environment) (account : Option String) : Option String :=
  ((env.get? "XDG_CONFIG_HOME").filter Path.isAbsolute).or
    ((Path.home? env account).map fun home => Path.join home ".config")

def userPath? (env : Environment) (account : Option String) : Option String :=
  (userDirectory? env account).map fun place => Path.join (Path.join place "pae") "config.json"

def rootHome : String := "/root"

/-- The paths to try, in order, for a user with a home directory that the system may keep. -/
def candidates (s : ConfigSearch) (account : Option String := some rootHome) :
    Except LoadError (List String) := do
  let explicit ← match s.explicit with
    | none => Except.ok []
    | some path =>
      ((Path.expand s.environment account path).map ([·])).elim (.error (.expansion path)) .ok
  .ok ((explicit ++ workspacePaths).map (Path.join s.directory) ++
    (userPath? s.environment account).toList)

end ConfigSearch

structure LoadedConfig where
  config : Config
  path : String
  deriving DecidableEq

namespace ConfigSearch

def firstUsable (files : FileSystem) : List String → Option LoadedConfig × List LoadError
  | [] => (none, [])
  | path :: rest =>
    if files.isFile path then
      match Config.load files path with
      | .ok config => (some ⟨config, files.canonical path⟩, [])
      | .error e =>
        let (found, errors) := firstUsable files rest
        (found, e :: errors)
    else firstUsable files rest

/-- The configuration, with the errors of the files that were left aside. -/
def run (s : ConfigSearch) (files : FileSystem) (account : Option String := some rootHome) :
    Except LoadError LoadedConfig × List LoadError :=
  match s.candidates account with
  | .error e => (.error e, [])
  | .ok paths =>
    let (found, errors) := firstUsable files paths
    (found.elim (.error (.notFound paths)) .ok, errors)

def warning (e : LoadError) : String := "Skipping config candidate: " ++ e.message

end ConfigSearch

end Shorthand
