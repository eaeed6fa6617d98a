import Shorthand.Tool.Tail.Growth
set_option autoImplicit false

namespace Shorthand.Tool

namespace Tail

open Work Showing

def isEndless (s : StreamStatus) : Bool :=
  s.file?.any fun s => s.node = .device .zero || s.node = .device .full

/-- The part that is asked for of a stream. The answer is how much was read, if it could be read. -/
def showPart (name : String) (r : Request) (label : String) (descriptor : Nat) :
    Showing (Option Nat) := do
  match ← call (.inspect descriptor) with
  | .error e =>
    blame name ("cannot fstat " ++ Quoted.always label ++ ": " ++ e.text)
    return none
  | .ok status =>
    if isEndless status then call .rest
    match ← readAll descriptor patience with
    | .ok text =>
      emit name (part r text)
      return some text.length
    | .error e =>
      let message := "error reading " ++ Quoted.always label ++ ": " ++ e.text
      if r.isFromStart && (r.inBytes || r.count < 2) then fail name message
      blame name message
      return none

/-- Up to where a file has been read of a size, if so much was read of it to show a part. The end of
a short file is found by reading from where the stream stands, and the end of another one without
that. -/
def positionAfter (r : Request) (size read : Nat) : Nat :=
  if r.isFromStart then if r.inBytes then max read (r.count - 1) else read
  else if r.inBytes then if size ≤ 4096 then read else size
  else if read = 0 then 0 else size

def followed (name : String) (r : Request) (f : Watched) (descriptor : Nat) (read? : Option Nat) :
    Showing Watched := do
  match ← call (.inspect descriptor) with
  | .error e =>
    blame name ("error reading " ++ Quoted.always f.label ++ ": " ++ e.text)
    return { f with isIgnored := !r.retries, trouble := .error e }
  | .ok status =>
    let node := (status.file?.map (·.node)).getD (.device .null)
    if node = .directory then
      blame name (Quoted.beforeColon f.label ++ ": cannot follow end of this type of file" ++
        if r.retries then "" else "; giving up on this name")
    match read?.filter fun _ => node ≠ .directory with
    | some read =>
      return { f with
        descriptor? := some descriptor
        seen? := some node
        position := positionAfter r (sizeOf node) read }
    | none =>
      return { f with isIgnored := !r.retries, isTailable := node ≠ .directory, trouble := .unfit }

def showEnd (name : String) (r : Request) (showsNames : Bool) (path : String) : Showing Unit := do
  let isInput := path = "-"
  let label := if isInput then "standard input" else path
  let opened ← if isInput then pure (.ok 0) else openApart path
  let f ← match opened with
    | .error e =>
      blame name ("cannot open " ++ Quoted.always label ++ " for reading: " ++ e.text)
      pure { path, label, isIgnored := !r.retries, isTailable := !r.retries, trouble := .error e }
    | .ok descriptor =>
      if isInput then modify fun p => { p with hasReadInput := true }
      if showsNames then head name label
      let read? ← showPart name r label descriptor
      let f : Watched := { path, label }
      let f ← if r.follows?.isSome then followed name r f descriptor read? else pure f
      if !isInput && f.descriptor?.isNone then
        let _ ← call (.close descriptor)
      pure f
  modify fun p => { p with files := p.files ++ [f] }

def viable (files : List Watched) : Showing (List Watched) :=
  files.filterM fun f => do
    if f.path ≠ "-" || f.descriptor?.isNone then return true
    else return (← call (.inspect 0)).toOption.all (·.file?.isSome)

def warnings (r : Request) : List String :=
  (if !r.retries then []
    else match r.follows? with
      | none => ["warning: --retry ignored; --retry is useful only when following"]
      | some .descriptor => ["warning: --retry only effective for the initial open"]
      | some .name => []) ++
    if r.companion?.isSome && r.follows?.isNone then
      ["warning: PID ignored; --pid=PID is useful only when following"]
    else []

def serve (name : String) (r : Request) : Showing Nat := do
  (warnings r).forM (tell name)
  let r := if r.follows?.isNone then { r with retries := false, companion? := none } else r
  let paths := if r.paths.isEmpty then ["-"] else r.paths
  if paths.contains "-" && r.follows? = some .name then fail name "cannot follow '-' by name"
  if r.count = 0 && r.follows?.isNone && !r.isFromStart then return 0
  let showsNames := r.headers.getD (1 < paths.length)
  paths.forM (showEnd name r showsNames)
  if r.follows?.isSome then
    let files := (← get).files
    let viable ← viable files
    if !viable.isEmpty then
      modify fun p => { p with
        files := files.map fun f =>
          if viable.contains f then f else { f with descriptor? := none, isIgnored := true } }
      follow name r showsNames
  if (← get).hasReadInput then
    if let .error e ← call (.close 0) then fail name ("-: " ++ e.text)
  conclude name (← get).status

end Tail

def tail : Tool := fun name words environment => do
  match Tail.ofWords (isStrict environment) words with
  | .ok r => return (← (Tail.serve name r).run {}).1
  | .error refusal =>
    if refusal.hasHint then misuse name refusal.message
    else
      complain name refusal.message
      return 1

end Shorthand.Tool
