import Shorthand.Posix.Options
set_option autoImplicit false

namespace Shorthand.Posix

namespace Setting

open Evaluator

def shown (word : String) (isMeant : Variable → Bool) (s : State) : String :=
  String.join ((s.known.entries.filter fun e => isMeant e.2).map fun e =>
    word ++ e.1 ++ (e.2.value.elim "" fun v => "=" ++ quoted v) ++ "\n")

def marking (isExport : Bool) (args : List String) : Evaluator Nat := do
  let isListing := args.head?.any (·.startsWith "-p")
  let given ← if isListing then pure { rest := [] } else Given.read "p" args
  if given.rest.isEmpty then
    let s ← get
    if isExport then print (shown "export " (·.isExported) s)
      else print (shown "readonly " (·.isReadOnly) s)
  else
    given.rest.forM fun word => do
      let (name, value) := State.splitSetting word
      match (← get).known.get? name, value with
      | some v, none =>
        let v :=
          { v with isExported := v.isExported || isExport, isReadOnly := v.isReadOnly || !isExport }
        modify fun s => { s with known := s.known.insert name v }
      | _, _ => change (·.assign name value isExport !isExport)
  return 0

def unset (args : List String) : Evaluator Nat := do
  let given ← Given.read "vf" args
  let isFunction := (given.options.getLast?.map (·.1)) = some 'f'
  given.rest.forM fun name =>
    if isFunction then modify fun s => { s with functions := s.functions.erase name }
    else change (·.assign name none)
  return 0

def local_ (args : List String) : Evaluator Nat := do
  if (← get).saved.isEmpty then fail "not in a function"
  args.forM fun word => change (·.makeLocal word)
  return 0

def flip (isOn : Bool) (c : Char) : Evaluator Unit := do
  match Flag.ofLetter? c with
  | none => fail ("Illegal option -" ++ String.singleton c)
  | some f =>
    modify fun s =>
      let s := s.setFlag f isOn
      match if isOn then f.rival? else none with
      | some rival => s.setFlag rival false
      | none => s

def flipNamed (isOn : Bool) (name : String) : Evaluator Unit := do
  match Flag.ofName? name with
  | none => fail ("Illegal option -o " ++ name)
  | some f => modify (·.setFlag f isOn)

/-- All options, to be read by people or by a shell. Some that have not been set yet may count as
on. -/
def listing (counted : List Flag) (isForPeople : Bool) (s : State) : String :=
  let line (e : Flag × String × Option Char) : String :=
    let isOn := counted.contains e.1 || s.has e.1
    if isForPeople then
      e.2.1 ++ .ofList (List.replicate (16 - e.2.1.length) ' ') ++
        (if isOn then "on" else "off") ++ "\n"
    else "set " ++ (if isOn then "-o " else "+o ") ++ e.2.1 ++ "\n"
  (if isForPeople then "Current option settings\n" else "") ++ String.join (Flag.named.map line)

structure Words where
  rest : List String
  /-- Whether a command follows as a word of its own. -/
  hasCommand : Bool := false
  isLogin : Bool := false
  /-- The options that have not been set and count as on, as they all do while a shell starts. -/
  open_ : List Flag := []
  /-- Whether the parameters are to be replaced even if none follow. -/
  replaces : Bool := false

def letters (isStart isOn : Bool) : List Char → Words → Evaluator Words
  | [], w => return w
  | c :: r, w => do
    if c = 'c' && isStart then letters isStart isOn r { w with hasCommand := true }
    else if c = 'l' && isStart then letters isStart isOn r { w with isLogin := true }
    else if c = 'o' then
      match w.rest with
      | [] => print (listing w.open_ isOn (← get))
      | name :: _ => flipNamed isOn name
      let flag? := w.rest.head?.bind Flag.ofName?
      letters isStart isOn r { w with
        rest := w.rest.tail, open_ := w.open_.filter (some · ≠ flag?) }
    else
      flip isOn c
      let flag? := Flag.ofLetter? c
      let rival? := if isOn then flag?.bind Flag.rival? else none
      letters isStart isOn r
        { w with open_ := w.open_.filter fun f => some f ≠ flag? && some f ≠ rival? }

def options (isStart : Bool) : Nat → Words → Evaluator Words
  | 0, w => return w
  | n + 1, w => do
    match w.rest with
    | [] => return w
    | word :: rest =>
      let w' := { w with rest }
      match word.toList with
      | ['-'] =>
        if !isStart then modify fun s => (s.setFlag .xtrace false).setFlag .verbose false
        return w'
      | ['-', '-'] => return { w' with replaces := true }
      | '-' :: r => options isStart n (← letters isStart true r w')
      | '+' :: r => options isStart n (← letters isStart false r w')
      | _ => return w

/-- Jobs cannot be controlled without a terminal, which copies of the shell do not look for. -/
def dropMonitor : Evaluator Unit := do
  let s ← get
  if s.has .monitor && !s.isSubshell then
    warn "can't access tty; job control turned off"
    modify (·.setFlag .monitor false)

def setParameters (parameters : List String) : Evaluator Unit :=
  modify fun s => { s with parameters, cursor := {} }

def set_ (args : List String) : Evaluator Nat := do
  if args.isEmpty then print (shown "" (·.value.isSome) (← get))
  else
    let words ← options false (args.length + 1) { rest := args }
    dropMonitor
    if words.replaces || !words.rest.isEmpty then setParameters words.rest
  return 0

def shift (args : List String) : Evaluator Nat := do
  let n ← match args with
    | [] => pure 1
    | word :: _ => count word
  let parameters := (← get).parameters
  if n > parameters.length then fail "can't shift that many"
  setParameters (parameters.drop n)
  return 0

def bucket (rows : Nat) (name : String) : Nat :=
  let codes := name.toList.map Char.toNat
  (codes.foldl (· + ·) ((codes.headD 0) * 16)) % rows

def tabled {α : Type} (rows : Nat) (l : List (String × α)) : List (String × α) :=
  (List.range rows).flatMap fun n => l.filter fun e => bucket rows e.1 = n

def aliasLine (e : String × String) : String := e.1 ++ "=" ++ quoted e.2 ++ "\n"

def setAlias (name text : String) (s : State) : State :=
  { s with aliases :=
      if s.aliases.any (·.1 = name) then s.aliases.map fun e =>
        if e.1 = name then (name, text) else e
      else s.aliases ++ [(name, text)] }

def splitAlias? (word : String) : Option (String × String) :=
  match word.toList with
  | [] => none
  | c :: r =>
    let name := r.takeWhile (· ≠ '=')
    let rest := r.drop name.length
    if rest.isEmpty then none else some (.ofList (c :: name), .ofList rest.tail)

def alias_ (args : List String) : Evaluator Nat := do
  if args.isEmpty then
    print (String.join ((tabled 39 (← get).aliases).map aliasLine))
    return 0
  let codes ← args.mapM fun word => do
    match splitAlias? word with
    | some (name, text) =>
      modify (setAlias name text)
      return 0
    | none =>
      match (← get).aliases.find? (·.1 = word) with
      | some e =>
        print (aliasLine e)
        return 0
      | none =>
        let _ ← write 2 ("alias: " ++ word ++ " not found\n").toList
        return 1
  return codes.foldl max 0

def unalias (args : List String) : Evaluator Nat := do
  if (args.headD "").startsWith "-a" then
    modify fun s => { s with aliases := [] }
    return 0
  let given ← Given.read "" args
  let codes ← given.rest.mapM fun name => do
    if (← get).aliases.any (·.1 = name) then
      modify fun s => { s with aliases := s.aliases.filter (·.1 ≠ name) }
      return 0
    else
      let _ ← write 2 ("unalias: " ++ name ++ " not found\n").toList
      return 1
  return codes.foldl max 0

end Setting

end Shorthand.Posix
