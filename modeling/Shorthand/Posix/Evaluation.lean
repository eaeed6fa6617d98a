import Shorthand.Posix.Describing
import Shorthand.Posix.Mask
import Shorthand.Posix.Moving
import Shorthand.Posix.Printing
import Shorthand.Posix.Reading
import Shorthand.Posix.Redirection
import Shorthand.Posix.Signalling
import Shorthand.Posix.Testing
set_option autoImplicit false

namespace Shorthand.Posix

structure Mode where
  /-- Whether the shell ends with it. -/
  isLast : Bool := false
  /-- Whether somebody asks for its status, so that a bad one does not end the shell. -/
  isTested : Bool := false

abbrev Run := Mode → Option Command → Evaluator Nat

namespace Evaluation

open Evaluator

/-! ### Scripts -/

structure Feed where
  more : Evaluator (List Char) := pure []
  isShown : Bool := false
  before : Evaluator Unit := pure ()
  between : Evaluator Unit := pure ()

def extended (scan : Scan) (text : List Char) : Scan :=
  match scan.sources.getLast? with
  | none => { scan with sources := [{ text }] }
  | some source =>
    { scan with sources := scan.sources.dropLast ++ [{ source with text := source.text ++ text }] }

abbrev Reading := Except Fault (Option (Option Command) × Scan)

def isOpen : Reading → Bool
  | .error fault => fault.rest = 0
  | .ok (_, after) => after.sources.isEmpty

def nextLine (feed : Feed) : Nat → Scan → Evaluator (Scan × Reading)
  | 0, scan => return (scan, Parser.line.run scan)
  | n + 1, scan => do
    let reading := Parser.line.run scan
    if isOpen reading then
      match ← feed.more with
      | [] => return (scan, reading)
      | text => nextLine feed n (extended scan text)
    else return (scan, reading)

def seen (before : Scan) (rest : Nat) : List (List Char) :=
  let text := before.remaining
  let read := text.take (text.length - rest)
  let line := if read.getLast?.all (· = '\n') then [] else
    let line := (text.drop read.length).takeWhile (· ≠ '\n')
    if line.length < rest then line ++ ['\n'] else line
  (read ++ line).splitBy fun c _ => c ≠ '\n'

def showRead (feed : Feed) (count : Nat) : List (List Char) → Evaluator Unit
  | [] => pure ()
  | line :: rest => do
    if feed.isShown && (← get).has .verbose then
      let _ ← write 2 line
    if count = 0 then showRead feed 0 rest
    else
      feed.between
      showRead feed (count - 1) rest

def withRead (after : Scan) (s : State) : State :=
  { s with
    documents := s.documents ++ after.documents
    nextDocument := after.nextDocument
    endIsRead := after.isPushed && after.last.isEnd }

def linesFor (run : Run) (mode : Mode) (feed : Feed) : Nat → Scan → Nat → Evaluator Nat
  | 0, _, status => return status
  | n + 1, scan, status => do
    modify fun s => { s with endIsRead := false }
    feed.before
    let s ← get
    let scan := { scan with aliases := s.aliases, nextDocument := s.nextDocument, documents := [] }
    match ← nextLine feed Parser.patience scan with
    | (scan, .error fault) =>
      showRead feed (fault.line - scan.line) (seen scan fault.rest)
      modify fun s => { s with line := fault.line }
      fail fault.flaw.message
    | (scan, .ok (none, after)) =>
      showRead feed (after.line - scan.line - 1) (seen scan after.remaining.length)
      modify fun s => { s with endIsRead := true }
      return status
    | (scan, .ok (some c, after)) =>
      showRead feed (after.line - scan.line - 1) (seen scan after.remaining.length)
      modify fun s => { withRead after s with readLine := after.line }
      let result ← run mode c
      let status := if c.isSome then result else status
      if (← get).skipping?.isSome then return status
      else linesFor run mode feed n after status

def script (run : Run) (mode : Mode) (isShown : Bool) (text : List Char) : Evaluator Nat := do
  let readLine := (← get).readLine
  let status ← linesFor run mode { isShown } Parser.patience { sources := [{ text }] } 0
  modify fun s => { s with readLine }
  return status

/-! ### Traps and the end -/

def trapsFor (run : Run) (status : Nat) : Nat → Evaluator Unit
  | 0 => pure ()
  | n + 1 => do
    let s ← get
    match s.pending.min? with
    | none => pure ()
    | some signal =>
      if s.skipping?.isNone then
        modify fun s => { s with pending := s.pending.filter (· ≠ signal) }
        match s.traps.find? (·.1 = signal) with
        | none => pure ()
        | some (_, action) =>
          let _ ← script run {} false action.toList
          if (← get).skipping? ≠ some (.function true) then setStatus status
        trapsFor run status n

def traps (run : Run) : Evaluator Unit := do
  collect
  let s ← get
  if !s.pending.isEmpty then
    let before := s.savedStatus?
    let status := before.getD s.status
    modify fun s => { s with savedStatus? := some status }
    trapsFor run status (Signal.lastFree + 1)
    modify fun s => { s with savedStatus? := before }

def giveUp (isExit : Bool) : Evaluator Unit := do
  modify fun s =>
    let keeps := isExit || s.skipping? = some (.function false)
    { s with
      status := if keeps then s.savedStatus?.getD s.status else s.status
      savedStatus? := none
      skipping? := none
      loopDepth := 0
      isTracing := false
      commandName := none }
  Redirection.unwind 0

def concluded (run : Run) (work : Evaluator Unit) : Evaluator Unit := do
  let isExit ← match ← attempt work with
    | .ok _ => pure false
    | .error e =>
      giveUp (e = .exit)
      pure (e = .exit)
  modify fun s => { s with savedStatus? := some s.status }
  let isExit ← match (← get).traps.find? (·.1 = 0) with
    | none => pure isExit
    | some (_, action) => do
      modify fun s => { s with traps := s.traps.filter (·.1 ≠ 0), skipping? := none }
      match ← attempt (script run {} false action.toList) with
      | .ok _ =>
        modify fun s => { s with skipping? := some (.function false) }
        pure isExit
      | .error e => pure (e = .exit)
  giveUp isExit
  let _ ← flush

/-! ### Copies of the shell -/

def beginCopy (isBackground isFirst : Bool) : Evaluator Unit := do
  Signalling.clearTraps
  modify fun s => { s with isSubshell := true, jobs := [], redirected := [], readLine := 1 }
  if isBackground then
    for s in [Signal.interrupt, Signal.quit] do
      call (.prepare s .ignored)
    modify fun s => { s with hardIgnored := [Signal.interrupt, Signal.quit] ++ s.hardIgnored }
    if isFirst then
      let _ ← call (.close 0)
      let _ ← call (.openFile "/dev/null" { reads := true })

def forkShell (run : Run) (isBackground isFirst : Bool) (work : Evaluator Unit) :
    Evaluator ProcessId :=
  fork do
    beginCopy isBackground isFirst
    concluded run work

/-- The processes of a new job, and its status: the one of its end unless nobody waits for it. -/
def asJob (isBackground : Bool) (ids : List ProcessId) : Evaluator Nat := do
  modify (Job.add ids)
  if isBackground then
    modify fun s => { s with background? := ids.getLast? }
    return 0
  else Job.await (((← get).jobs.head?.map (·.number)).getD 0)

def capture (run : Run) : Expansion.Capture
  | none => return []
  | some c => do
    let (source, target) ← call .pipe
    let id ← forkShell run false true do
      let _ ← call (.close source)
      if target ≠ 1 then
        let _ ← call (.copyTo target 1)
        let _ ← call (.close target)
      let _ ← run { isLast := true } (some c)
    let _ ← call (.close target)
    let text ← readAll source
    let _ ← call (.close source)
    let outputStatus ← asJob false [id]
    modify fun s => { s with outputStatus }
    return text

def subshell (run : Run) (mode : Mode) (isBackground : Bool) (line : Nat) (body : Option Command)
    (redirections : List Redirection) : Evaluator Nat := do
  if line ≠ 0 then modify fun s => { s with line }
  let led ← Redirection.expandAll (capture run) redirections
  let work : Evaluator Unit := do
    Redirection.leadAll (capture run) false led
    let _ ← run { isLast := true, isTested := mode.isTested && !isBackground } body
  if !isBackground && mode.isLast && !Signalling.hasTraps (← get) then
    work
    stop .finish
  else asJob isBackground [← forkShell run isBackground true work]

def pipes (run : Run) (mode : Mode) (isBackground : Bool) :
    (input : Option Nat) → List ProcessId → List Command →
    Evaluator (List ProcessId)
  | _, ids, [] => return ids
  | input, ids, c :: rest => do
    let pipe ← if rest.isEmpty then pure none else some <$> call .pipe
    let id ← forkShell run isBackground ids.isEmpty do
      if let some (source, _) := pipe then
        let _ ← call (.close source)
      if let some input := input then
        if input > 0 then
          let _ ← call (.copyTo input 0)
          let _ ← call (.close input)
      if let some (_, target) := pipe then
        if target > 1 then
          let _ ← call (.copyTo target 1)
          let _ ← call (.close target)
      let _ ← run { mode with isLast := true } (some c)
    if let some input := input then
      let _ ← call (.close input)
    if let some (_, target) := pipe then
      let _ ← call (.close target)
    pipes run mode isBackground (pipe.map (·.1)) (ids ++ [id]) rest

/-! ### Loops -/

inductive LoopEnd where
  | goesOn
  | next
  | ends
  deriving DecidableEq

def leaveLoop : Evaluator LoopEnd := do
  match (← get).skipping? with
  | none => return .goesOn
  | some (.loops n goesOn) =>
    if n ≤ 1 then
      modify fun s => { s with skipping? := none }
      return if goesOn then .next else .ends
    else
      modify fun s => { s with skipping? := some (.loops (n - 1) goesOn) }
      return .ends
  | some (.function _) => return .ends

def whileFor (run : Run) (mode : Mode) (isUntil : Bool) (condition body : Option Command) :
    Nat → Nat → Evaluator Nat
  | 0, status => return status
  | n + 1, status => do
    let result ← run { isTested := true } condition
    let isReturn := (← get).skipping? = some (.function true)
    match ← leaveLoop with
    | .next => whileFor run mode isUntil condition body n status
    | .ends => return if isReturn then result else status
    | .goesOn =>
      if (result = 0) = isUntil then return status
      let status ← run mode body
      match ← leaveLoop with
      | .ends => return status
      | _ => whileFor run mode isUntil condition body n status

def eachFor (run : Run) (mode : Mode) (name : String) (body : Option Command) :
    List String → Nat → Evaluator Nat
  | [], status => return status
  | word :: rest, _ => do
    assign name word
    let status ← run mode body
    match ← leaveLoop with
    | .ends => return status
    | _ => eachFor run mode name body rest status

def inLoop (work : Evaluator Nat) : Evaluator Nat := do
  modify fun s => { s with loopDepth := s.loopDepth + 1 }
  let status ← work
  modify fun s => { s with loopDepth := s.loopDepth - 1 }
  return status

def fitsAny (run : Run) (text : List Char) : List Word → Evaluator Bool
  | [] => return false
  | word :: rest => do
    let pattern ← Expansion.pattern (capture run) word
    if Pattern.matches_ pattern text then return true else fitsAny run text rest

def select (run : Run) (mode : Mode) (text : List Char) :
    List (List Word × Option Command) → Evaluator Nat
  | [] => return 0
  | (patterns, body) :: rest => do
    if ← fitsAny run text patterns then
      if body.isSome then run mode body else return 0
    else select run mode text rest

/-! ### Commands of the shell -/

def eval (run : Run) (mode : Mode) (args : List String) : Evaluator Nat :=
  if args.isEmpty then return 0
  else script run { isTested := mode.isTested } false (" ".intercalate args).toList

def firstFile : List String → Evaluator (Option String)
  | [] => return none
  | path :: rest => do
    match ← call (.status path true) with
    | .error _ => firstFile rest
    | .ok status =>
      match status.node with
      | .regular .. | .program _ => return some path
      | _ => firstFile rest

def scriptText (path : String) : Evaluator (List Char) := do
  let descriptor ← Redirection.openFor path .input
  let text ← readAll descriptor
  let _ ← call (.close descriptor)
  return text

def dot (run : Run) (args : List String) : Evaluator Nat := do
  let given ← Given.read "" args
  match given.rest with
  | [] => return 0
  | name :: _ =>
    let path ← if name.toList.contains '/' then pure name
      else do
        match ← firstFile (Lookup.candidates (← Lookup.searchPath) name) with
        | some path => pure path
        | none => fail (name ++ ": not found")
    let text ← scriptText path
    modify fun s => { s with commandName := some path }
    let status ← script run {} true text
    let isReturn := (← get).skipping? matches some (.function _)
    if isReturn then modify fun s => { s with skipping? := none }
    return status

def leaveLoops (goesOn : Bool) (args : List String) : Evaluator Nat := do
  let n ← match args with
    | [] => pure 1
    | word :: _ => do
      let n ← count word
      if n = 0 then fail ("Illegal number: " ++ word) else pure n
  let n := min n (← get).loopDepth
  if n > 0 then modify fun s => { s with skipping? := some (.loops n goesOn) }
  return 0

def return_ (args : List String) : Evaluator Nat := do
  let status ← match args with
    | [] => pure (← get).status
    | word :: _ => count word
  modify fun s => { s with skipping? := some (.function !args.isEmpty) }
  return status

def exit (args : List String) : Evaluator Nat := do
  match args with
  | [] => pure ()
  | word :: _ =>
    let status ← count word
    modify fun s => { s with savedStatus? := some status }
  stop .exit

def exec (args : List String) : Evaluator Nat := do
  if args.isEmpty then return 0
  modify fun s => (s.setFlag .interactive false).setFlag .monitor false
  Lookup.execute none 0 args

def printf (args : List String) : Evaluator Nat := do
  let given ← Given.read "" args
  match given.rest with
  | [] => fail "usage: printf format [arg ...]"
  | format :: args =>
    let printed := Printing.formatted format args
    printed.complaints.forM warn
    print (.ofList printed.text)
    match printed.fault with
    | some fault => fail fault
    | none => return if printed.complaints.isEmpty then 0 else 1

def test (name : String) (args : List String) : Evaluator Nat := do
  let args ← if name ≠ "[" then pure args
    else if args.getLast?.any (·.startsWith "]") then pure args.dropLast
    else fail "missing ]"
  return if ← Testing.holds (args.length + 1) false args then 0 else 1

def times : String := "0m0.000000s 0m0.000000s\n0m0.000000s 0m0.000000s\n"

def builtin (run : Run) (mode : Mode) (b : Builtin) (name : String) (args : List String) :
    Evaluator Nat :=
  match b with
  | .alias_ => Setting.alias_ args
  | .background | .foreground => Signalling.move args
  | .bracket | .test => test name args
  | .break_ => leaveLoops false args
  | .changeDirectory => Moving.changeDirectory args
  | .colon | .true_ => return 0
  | .command => Describing.command args
  | .continue_ => leaveLoops true args
  | .dot => dot run args
  | .echo => do
    print (.ofList (Printing.echoed args))
    return 0
  | .eval => eval run mode args
  | .exec => exec args
  | .exit => exit args
  | .export_ => Setting.marking true args
  | .false_ => return 1
  | .getopts => Reading.getopts args
  | .hash => Describing.hash args
  | .jobs => Signalling.jobs args
  | .kill => Signalling.kill args
  | .local_ => Setting.local_ args
  | .printf => printf args
  | .pwd => Moving.pwd args
  | .read => Reading.read args
  | .readonly => Setting.marking false args
  | .return_ => return_ args
  | .set => Setting.set_ args
  | .shift => Setting.shift args
  | .times => do
    print times
    return 0
  | .trap => Signalling.trap args
  | .type => Describing.type args
  | .ulimit => Signalling.ulimit args
  | .umask => Mask.umask args
  | .unalias => Setting.unalias args
  | .unset => Setting.unset args
  | .wait => Signalling.wait args

/-- A command of the shell, with what it has printed. A fault in it ends the shell only if it is
special. -/
def runBuiltin (run : Run) (mode : Mode) (isSpecial : Bool) (b : Builtin) (args : List String) :
    Evaluator Unit := do
  let name := args.headD ""
  let before ← get
  modify fun s => { s with commandName := some name }
  let result ← attempt do
    let status ← builtin run mode b name args.tail
    if ← flush then setStatus status
    else
      warn (name ++ ": I/O error")
      setStatus (Nat.lor status 1)
  modify fun s =>
    { s with commandName := before.commandName, readLine := before.readLine, output := [] }
  match result with
  | .ok _ => pure ()
  | .error e => if e = .failure && !isSpecial then pure () else stop e

def functionLimit : Nat := 1000

def runFunction (run : Run) (mode : Mode) (body : Command) (args : List String) :
    Evaluator Unit := do
  let s ← get
  if s.functionDepth ≥ functionLimit then fail "Maximum function recursion depth (1000) reached"
  modify fun t =>
    { t with
      parameters := args.tail, cursor := {}, loopDepth := 0, functionDepth := s.functionDepth + 1 }
  let result ← attempt (run { isTested := mode.isTested } (some body))
  modify fun t =>
    { t with
      parameters := s.parameters
      cursor := s.cursor
      loopDepth := s.loopDepth
      functionDepth := s.functionDepth
      skipping? := t.skipping?.filter fun k => !(k matches .function _) }
  match result with
  | .ok _ => pure ()
  | .error e => stop e

def runProgram (mode : Mode) (path? : Option String) (index : Nat) (args : List String) :
    Evaluator Nat := do
  if mode.isLast && !Signalling.hasTraps (← get) then Lookup.execute path? index args
  else asJob false [← fork (Lookup.execute path? index args)]

/-! ### Simple commands -/

def firstFields (run : Run) : List Word → Evaluator (List String × List Word)
  | [] => return ([], [])
  | word :: rest => do
    let fields ← Expansion.fields (capture run) word
    if fields.isEmpty then firstFields run rest else return (fields, rest)

structure Arguments where
  fields : List String
  words : List Word

def Arguments.field? (run : Run) (n : Nat) (a : Arguments) :
    Evaluator (Option String × Arguments) := do
  match a.fields[n]? with
  | some field => return (some field, a)
  | none =>
    let (fields, words) ← firstFields run a.words
    return (fields.head?, ⟨a.fields ++ fields, words⟩)

/-- What the arguments of `command` say from a number on: the number of the name of the command
behind them, if they only ask for it to be run, and the search path. -/
def commandOptions (run : Run) : Nat → Nat → Option String → Arguments →
    Evaluator (Option (Nat × Option String) × Arguments)
  | 0, _, _, a => return (none, a)
  | k + 1, n, path?, a => do
    let (field?, a) ← a.field? run n
    match field? with
    | none => return (none, a)
    | some field =>
      match field.toList with
      | ['-', '-'] =>
        let (next?, a) ← a.field? run (n + 1)
        return (next?.map fun _ => (n + 1, path?), a)
      | '-' :: c :: r =>
        if (c :: r).all (· = 'p') then commandOptions run k (n + 1) (some Lookup.standardPath) a
        else return (none, a)
      | _ => return (some (n, path?), a)

structure Prepared where
  args : List String := []
  before : List String := []
  target? : Option Target := none
  path? : Option String := none
  withFunctions : Bool := true
  isSpecial : Bool := false
  isLocal : Bool := false
  isExec : Bool := false

def lookFor (run : Run) :
    Nat → Nat → Bool → Prepared → Arguments → Evaluator (Prepared × Arguments × Bool)
  | 0, _, _, p, a => return (p, a, false)
  | k + 1, n, isFirst, p, a => do
    let name := (a.fields[n]?).getD ""
    let target? := Lookup.known? (← get) p.withFunctions name
    let p :=
      { p with target?, before := a.fields.take n, isLocal := if isFirst then true else p.isLocal }
    match target? with
    | some (.builtin b) =>
      let p := if isFirst then { p with isSpecial := b.isSpecial, isLocal := !b.isSpecial } else p
      let p := { p with isExec := b = .exec }
      if b ≠ .command then return (p, a, b.takesSettings)
      else
        let (found?, a) ← commandOptions run Parser.patience (n + 1) p.path? a
        match found? with
        | none => return (p, a, b.takesSettings)
        | some (n, path?) => lookFor run k n false { p with path?, withFunctions := false } a
    | _ => return (p, a, false)

def argument (run : Run) (takesSettings : Bool) (word : Word) : Evaluator (List String) :=
  if takesSettings && Word.isSetting word then
    do return [← Expansion.text (capture run) .setting word]
  else Expansion.fields (capture run) word

def prepare (run : Run) (words : List Word) : Evaluator Prepared := do
  let (fields, words) ← firstFields run words
  if fields.isEmpty then return {}
  let (p, a, takesSettings) ← lookFor run Parser.patience 0 true {} ⟨fields, words⟩
  let more ← a.words.mapM (argument run takesSettings)
  return { p with args := a.fields.drop p.before.length ++ more.flatten }

def settle_ (run : Run) (p : Prepared) (word : Word) : Evaluator String := do
  let text ← Expansion.text (capture run) .setting word
  if p.isLocal then change (·.makeLocal text true)
  else
    let (name, value) := State.splitSetting text
    change (·.put name (some (value.getD "")) (p.isExec && 1 < p.args.length))
  return text

/-- A text in which parameters and commands are replaced. If that fails, this is told, and the text
stays as it is. -/
def replaced (run : Run) (text : String) : Evaluator String := do
  let s ← get
  let scan : Scan :=
    { sources := [{ text := text.toList }]
      aliases := s.aliases
      nextDocument := s.nextDocument
      isPushed := s.endIsRead }
  let result ← attempt do
    match Parser.text.run scan with
    | .ok (word, after) =>
      modify fun s => { withRead after s with endIsRead := false }
      Expansion.text (capture run) .quoted word
    | .error fault =>
      modify fun s => { s with line := fault.line, endIsRead := false }
      fail fault.flaw.message
  match result with
  | .error .failure => return text
  | result => settle result

def prompt (run : Run) (name : String) : Evaluator String := do
  replaced run (((← get).get? name).getD "")

def trace (run : Run) (descriptor : Nat) (settings words : List String) : Evaluator Unit := do
  let s ← get
  if s.has .xtrace && !s.isTracing then
    modify fun s => { s with isTracing := true }
    let start ← prompt run "PS4"
    modify fun s => { s with isTracing := false }
    let _ ← write descriptor (start ++ " ".intercalate (settings ++ words) ++ "\n").toList

def errorStream (s : State) : Nat :=
  (((s.redirected.head?.getD []).find? (·.descriptor = 2)).bind (·.copy)).getD 2

def perform (run : Run) (mode : Mode) (p : Prepared) : Evaluator Nat := do
  let name := p.args.headD ""
  let target ← match p.target? with
    | some target => pure target
    | none => Lookup.find p.withFunctions p.path? false name
  match target with
  | .unknown =>
    setStatus 127
    return 127
  | .program index => runProgram mode p.path? (index.getD 0) p.args
  | .builtin b =>
    runBuiltin run mode p.isSpecial b p.args
    Job.drain none
    return (← get).status
  | .function body =>
    runFunction run mode body p.args
    Job.drain none
    return (← get).status

def simple (run : Run) (mode : Mode) (line : Nat) (settings words : List Word)
    (redirections : List Redirection) :
    Evaluator Nat := do
  call .pause
  modify fun s => { s with line, outputStatus := 0 }
  let p ← prepare run words
  let depth := (← get).saved.length
  let level := (← get).redirected.length
  if p.isLocal then modify fun s => { s with saved := [] :: s.saved }
  let led ← Redirection.expandAll (capture run) redirections
  if !led.isEmpty then Redirection.begin
  let finish (status : Nat) : Evaluator Nat := do
    if !led.isEmpty && (← get).redirected.length > level then Redirection.finish p.isExec
    Redirection.unwind level
    let bad? := (← get).badName? depth
    modify fun s => s.unwind depth
    if let some name := bad? then fail (name ++ ": bad variable name")
    return status
  let isLed ← if led.isEmpty then pure true else Redirection.tryLead (capture run) led
  if !isLed then
    setStatus 2
    if p.isSpecial then stop .failure
    finish 2
  else
    let told ← settings.mapM (settle_ run p)
    let s ← get
    trace run (if led.isEmpty then 2 else errorStream s) told (p.before ++ p.args)
    let status ← if p.args.isEmpty then do
        let status := (← get).outputStatus
        setStatus status
        Job.drain none
        pure status
      else perform run mode p
    finish status

/-! ### All commands -/

/-- What comes of a command: its status, whether it becomes the status of the shell, and whether a
bad one may end the shell. -/
structure Outcome where
  status : Nat
  isSet : Bool := true
  isChecked : Bool := false

def outcome (run : Run) (mode : Mode) (c : Command) : Evaluator Outcome := do
  let checked (status : Nat) : Outcome := { status, isChecked := !mode.isTested }
  let plainMode : Mode := { isTested := mode.isTested }
  match c with
  | .simple line settings words redirections =>
    return checked (← simple run mode line settings words redirections)
  | .pipeline isBackground commands =>
    let ids ← pipes run mode isBackground none [] commands
    return checked (← asJob isBackground ids)
  | .subshell line body redirections =>
    return checked (← subshell run mode false line body redirections)
  | .background line body redirections =>
    return checked (← subshell run mode true line (some body) redirections)
  | .redirected line body redirections =>
    modify fun s => { s with line }
    let led ← Redirection.expandAll (capture run) redirections
    Redirection.begin
    let outcome ← if ← Redirection.tryLead (capture run) led then
        pure { status := ← run plainMode (some body) }
      else pure (checked 2)
    Redirection.finish false
    return outcome
  | .negation body =>
    let status ← run { isTested := true } (some body)
    if (← get).skipping?.isSome then return { status }
    else return { status := if status = 0 then 1 else 0 }
  | .both first second =>
    let status ← run { isTested := true } (some first)
    if status ≠ 0 || (← get).skipping?.isSome then return { status, isSet := false }
    else return { status := ← run mode (some second) }
  | .either first second =>
    let status ← run { isTested := true } (some first)
    if status = 0 || (← get).skipping?.isSome then return { status, isSet := false }
    else return { status := ← run mode (some second) }
  | .after first second =>
    let status ← run plainMode (some first)
    if (← get).skipping?.isSome then return { status, isSet := false }
    else return { status := ← run mode (some second) }
  | .branch condition yes no =>
    let status ← run { isTested := true } condition
    if (← get).skipping?.isSome then return { status, isSet := false }
    else if status = 0 then return { status := ← run mode yes }
    else if no.isSome then return { status := ← run mode no }
    else return { status := 0 }
  | .loop isUntil condition body =>
    return { status := ← inLoop (whileFor run plainMode isUntil condition body Parser.patience 0) }
  | .forEach line name words body =>
    modify fun s => { s with line }
    let fields ← words.mapM (Expansion.fields (capture run))
    return { status := ← inLoop (eachFor run plainMode name body fields.flatten 0) }
  | .select line subject cases =>
    modify fun s => { s with line }
    let text ← Expansion.text (capture run) {} subject
    return { status := ← select run mode text.toList cases }
  | .define _ name body =>
    modify fun s => { s with functions := s.functions.insert name body }
    return { status := 0 }

def tree (run : Run) (mode : Mode) (c : Option Command) : Evaluator Nat := do
  let outcome ← match c.filter fun _ => true with
    | none => pure { status := 0, isSet := false }
    | some c =>
      if (← get).has .noexec then pure { status := 0, isSet := false }
      else do
        traps run
        let o ← outcome run mode c
        if o.isSet then setStatus o.status
        pure o
  traps run
  if outcome.isChecked && outcome.status ≠ 0 && (← get).has .errexit then stop .finish
  if mode.isLast then stop .finish
  return (← get).status

def runAt : Nat → Run
  | 0, _, _ => return 0
  | depth + 1, mode, c => tree (runAt depth) mode c

def run : Run := runAt Parser.patience

end Evaluation

end Shorthand.Posix
