import Shorthand.Cli.Arguments
import Shorthand.Cli.Dispatch
import Shorthand.Session
set_option autoImplicit false

namespace Shorthand

structure Surroundings (σ : Type) where
  directory : String
  environment : Environment
  files : FileSystem
  host : σ
  account : Option String := some ConfigSearch.rootHome
  processors : Option Nat := some 1

structure Finished where
  warnings : List String
  outputs : List Output
  result : Except CliError Nat

namespace Surroundings

variable {σ : Type} [Host σ]

def execute (s : Surroundings σ) (app : App) (warnings : List String) (words : List String) :
    Finished :=
  match Pool.ofCapacity? app.workspace.settings.poolSize with
  | none => ⟨warnings, [], .error .tooManySlots⟩
  | some pool =>
    let dispatched := app.dispatch words
    let warnings := warnings ++ dispatched.warnings
    match dispatched.action with
    | .error e => ⟨warnings, [], .error e⟩
    | .ok action =>
      let performed := (app.workspace.perform (.ofPool pool s.host) action).1
      ⟨warnings, performed.outputs, performed.result.mapError fun e => .command (.run e)⟩

def run (s : Surroundings σ) (words : List String) : Finished :=
  let (settings, settingsWarnings) := Settings.ofEnvironment s.environment s.processors
  let search : ConfigSearch := ⟨s.directory, settings.configPath, s.environment⟩
  let (loaded, skipped) := search.run s.files s.account
  let warnings := settingsWarnings.map (·.message) ++ skipped.map ConfigSearch.warning
  match loaded with
  | .error e => ⟨warnings, [], .error (.load e)⟩
  | .ok l => s.execute ⟨⟨l.config, settings, s.environment⟩, l.path⟩ warnings words

end Surroundings

end Shorthand
