import Shorthand.Posix.Evaluation
set_option autoImplicit false

namespace Shorthand.Posix

namespace Startup

open Evaluator Evaluation

def searchPath : String := "/usr/local/sbin:/usr/local/bin:/usr/sbin:/usr/bin:/sbin:/bin"

def inherit (environment : List String) : Evaluator Unit :=
  environment.forM fun entry => do
    let (name, value) := State.splitSetting entry
    if value.isSome && isName name then change (·.put name value true)

def reset (name value : String) : Evaluator Unit :=
  modify fun s =>
    let old := (s.known.get? name).getD {}
    { s with known := s.known.insert name { old with value := some value } }

def offer (name value : String) : Evaluator Unit := do
  if ((← get).get? name).isNone then reset name value

def variables_ (environment : List String) : Evaluator Unit := do
  inherit environment
  reset "IFS" " \t\n"
  reset "OPTIND" "1"
  modify fun s => { s with cursor := {} }
  reset "PPID" (toString (← call .parentId))
  offer "PATH" searchPath
  offer "PS1" "# "
  offer "PS2" "> "
  offer "PS4" "+ "
  let ownId ← call .ownId
  modify fun s => { s with ownId }
  Moving.start

def profile (path : String) : Evaluator Unit := do
  match ← call (.openFile (← replaced run path) { reads := true }) with
  | .error _ => pure ()
  | .ok descriptor =>
    let text ← readAll descriptor
    let _ ← call (.close descriptor)
    let _ ← script run {} true text
    modify fun s => { s with skipping? := none }

def feedOf (more : Evaluator (List Char)) : Feed where
  more
  isShown := true
  before := do
    if (← get).has .interactive then
      let _ ← write 2 (← prompt run "PS1").toList
  between := do
    if (← get).has .interactive then
      let _ ← write 2 (← prompt run "PS2").toList

def accidents : Nat := 50

def standardInput : Evaluator (List Char) := do
  match ← call (.read 0 8192) with
  | .ok text => return text
  | .error _ => return []

def commandsFrom (more : Evaluator (List Char)) : Nat → List Char → Evaluator Unit
  | 0, _ => pure ()
  | n + 1, text => do
    let _ ← linesFor run {} (feedOf more) Parser.patience { sources := [{ text }] } 0
    let s ← get
    if s.skipping?.isSome then modify fun s => { s with skipping? := none }
    else if n = 0 then pure ()
    else if s.has .ignoreeof then
      let _ ← write 2 "\nUse \"exit\" to leave shell.\n".toList
      commandsFrom more n []
    else if s.has .interactive then
      let _ ← write 2 ['\n']

def commands : Evaluator Unit := commandsFrom standardInput (accidents + 1) []

/-- What a shell has to do, one thing after the other. A fault is the end of it, but people may go
on with the next thing. -/
def phases (standsIn : Evaluator Unit) : Nat → List (Evaluator Unit) → Evaluator Unit
  | 0, _ => pure ()
  | n + 1, l => do
    let (work, rest) := match l with
      | [] => (standsIn, [])
      | work :: rest => (work, rest)
    match ← attempt work with
    | .ok _ => if rest.isEmpty then pure () else phases standsIn n rest
    | .error .failure =>
      if (← get).has .interactive then
        giveUp false
        phases standsIn n rest
      else stop .failure
    | .error e => stop e

def profiles (isLogin : Bool) : Evaluator (List (Evaluator Unit)) := do
  let s ← get
  let ofLogin := if isLogin then ["/etc/profile", "$HOME/.profile"] else []
  return ofLogin.map profile ++
    if s.has .interactive then [do
      let path := ((← get).get? "ENV").getD ""
      if !path.isEmpty then profile path]
    else []

def prepare : Evaluator Unit := do
  let s ← get
  if s.has .interactive && !s.has .monitor then modify (·.setFlag .monitor true)
  Setting.dropMonitor
  if s.has .interactive then
    for signal in [Signal.quit, Signal.terminate] do
      call (.prepare signal .ignored)

def work (args environment : List String) : Evaluator Unit := do
  variables_ environment
  modify fun s => { s with name := args.headD "sh" }
  let words ← Setting.options true (args.length + 1) { rest := args.tail,
                                                       open_ := Flag.named.map (·.1) }
  let _ ← flush
  if words.rest.isEmpty then
    if words.hasCommand then fail "-c requires an argument"
    modify (·.setFlag .stdin true)
  let prelude ← profiles words.isLogin
  if words.hasCommand then
    let command := words.rest.headD ""
    let named := words.rest.tail
    modify fun s => { s with name := named.headD s.name, parameters := named.tail }
    prepare
    let once : Evaluator Unit := do
      let _ ← script run {} false command.toList
      modify fun s => { s with skipping? := none }
      if (← get).has .stdin then commands
    phases commands Parser.patience (prelude ++ [once])
  else if (← get).has .stdin then
    modify fun s => { s with parameters := words.rest }
    prepare
    phases commands Parser.patience (prelude ++ [commands])
  else
    let name := words.rest.headD ""
    let text ← scriptText name
    modify fun s => { s with name, parameters := words.rest.tail }
    prepare
    let once := commandsFrom (pure []) (accidents + 1) text
    phases once Parser.patience (prelude ++ [once])

def course (args environment : List String) : Course :=
  (concluded run (work args environment)).course { name := "sh", line := 0 }

end Startup

end Shorthand.Posix
