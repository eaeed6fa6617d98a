import Shorthand.Tool.Tail.Progress
set_option autoImplicit false

namespace Shorthand.Tool.Tail

open Work Showing

def hasSize : FileNode → Bool
  | .regular .. | .program _ => true
  | _ => false

def sizeOf (node : FileNode) : Nat :=
  match node with
  | .regular content _ => content.length
  | _ => 0

def timeOf (node : FileNode) : Nat :=
  match node with
  | .regular _ time => time
  | _ => 0

def Watched.isSame (f : Watched) (node : FileNode) : Bool :=
  f.seen?.any fun old => timeOf old = timeOf node && (!hasSize node || sizeOf node = f.position)

/-- A file is tried again that could not be followed before. The input stays what it is. -/
def retry (name : String) (r : Request) (i : Nat) (f : Watched) : Showing Unit := do
  if f.path = "-" then
    if f.trouble = .unfit then change i fun f => { f with isIgnored := true }
    return
  let label := Quoted.always f.label
  match ← openApart f.path with
  | .error e =>
    if f.isTailable then tell name (label ++ " has become inaccessible: " ++ e.text)
    change i fun f => { f with isTailable := false, trouble := .error e }
  | .ok descriptor =>
    let file? := (← call (.inspect descriptor)).toOption.bind (·.file?)
    let node := (file?.map (·.node)).getD (.device .null)
    if node = .directory then
      let _ ← call (.close descriptor)
      let isIgnored := r.follows? ≠ some .name
      if f.isTailable || f.trouble ≠ .unfit then
        tell name (label ++ " has been replaced with an untailable file" ++
          if isIgnored then "; giving up on this name" else "")
      change i fun f => { f with isTailable := false, isIgnored, trouble := .unfit }
    else
      tell name (label ++ if f.trouble = .error .notFound then " has appeared;  following new file"
        else " has become accessible")
      change i fun f =>
        { f with
          descriptor? := some descriptor
          isTailable := true
          trouble := .none
          seen? := some node
          position := 0 }

def rewind (name : String) (i : Nat) (f : Watched) (descriptor : Nat) (way : Way) :
    Showing Unit := do
  tell name (Quoted.beforeColon f.label ++ ": file truncated")
  if let .ok again ← openApart (FileTree.pathOf way) then
    let _ ← call (.copyTo again descriptor)
    let _ ← call (.close again)
  change i fun f => { f with position := 0 }

def readNew (i descriptor : Nat) : Showing (List Char) := do
  let text := (← readAll descriptor patience).toOption.getD []
  change i fun f => { f with position := f.position + text.length }
  return text

def heed : Showing Unit := do
  let isHeard := (← call (.inspect 1)).toOption.all (·.isHeard)
  if !isHeard then
    let _ ← call (.kill (← call .ownId) Signal.pipe)
    exit 1

def isAlone (r : Request) : Showing Bool := do
  match r.companion? with
  | none => return false
  | some id => return (← call (.kill id 0)).toOption.isNone

/-- A time passes; one without end, or too many of them, are for ever. -/
def pass : Sleep.Duration → Showing Unit
  | .microseconds n => call (.sleep (max n 1000))
  | .endless => call .rest

def looks : Nat := 20000

def look (name : String) (r : Request) (showsNames : Bool) (last i : Nat) :
    Showing (Nat × Bool) := do
  let files := (← get).files
  match (files[i]?).filter (!·.isIgnored) with
  | none => return (last, false)
  | some f =>
    match f.descriptor? with
    | none =>
      retry name r i f
      return (last, false)
    | some descriptor =>
      let file? := (← call (.inspect descriptor)).toOption.bind (·.file?)
      let node := (file?.map (·.node)).getD (.device .null)
      if f.isSame node && (hasSize node || 1 < files.length) then return (last, false)
      else
        change i fun f => { f with seen? := some node }
        if hasSize node && sizeOf node < f.position then
          rewind name i f descriptor ((file?.map (·.way)).getD [])
        if i ≠ last && showsNames then head name f.label
        let text ← readNew i descriptor
        emit name text
        return (i, !text.isEmpty)

def hasLiveFiles (r : Request) (files : List Watched) : Bool :=
  (r.retries && r.follows? = some .name) ||
    files.any fun f => f.descriptor?.isSome || (!f.isIgnored && r.retries)

def poll (name : String) (r : Request) (showsNames : Bool) :
    Nat → (last : Nat) → (isAlone_ : Bool) → Showing Unit
  | 0, _, _ => call .rest
  | n + 1, last, isAlone_ => do
    let (last, isNew) ← (List.range (← get).files.length).foldlM
      (fun (last, isNew) i => do
        let (last, isNewHere) ← look name r showsNames last i
        return (last, isNew || isNewHere)) (last, false)
    if !hasLiveFiles r (← get).files then blame name "no files remaining"
    else
      if !isNew then settle name
      heed
      if isNew then poll name r showsNames n last isAlone_
      else if !isAlone_ then
        let isAlone_ ← isAlone r
        if !isAlone_ then pass r.interval
        poll name r showsNames n last isAlone_

def isTold (r : Request) : Showing Bool := do
  let p ← get
  let hasLink ← p.files.anyM fun f => do
    return (← call (.status f.path false)).toOption.any fun s => s.node matches .link _
  return !r.isPolling && !hasLink && p.files.any (·.descriptor?.isSome) &&
    p.files.all (fun f =>
      (f.isIgnored || f.path ≠ "-") && (f.descriptor?.isNone || f.seen?.any hasSize)) &&
    (p.status = 0 || r.follows? ≠ some .descriptor)

def parentOf (path : String) : String :=
  let names := (path.toList.reverse.dropWhile (· = '/')).dropWhile (· ≠ '/')
  let parent := String.ofList (names.dropWhile (· = '/')).reverse
  if parent.isEmpty then (if names.isEmpty then "." else "/") else parent

def watchesParents (name : String) : List Watched → Showing Bool
  | [] => return true
  | f :: rest => do
    match ← call (.status (parentOf f.path) true) with
    | .ok _ => watchesParents name rest
    | .error e =>
      tell name ("cannot watch parent directory of " ++ Quoted.always f.path ++ ": " ++ e.text)
      return false

/-- What is new in a file of which the system has told. The answer is the file from which something
came last. -/
def check (name : String) (showsNames : Bool) (last i : Nat) : Showing Nat := do
  match (← get).files[i]? with
  | none => return last
  | some f =>
    match f.descriptor? with
    | none => return last
    | some descriptor =>
      let file? := (← call (.inspect descriptor)).toOption.bind (·.file?)
      let node := (file?.map (·.node)).getD (.device .null)
      if sizeOf node < f.position then rewind name i f descriptor ((file?.map (·.way)).getD [])
      if f.isSame node then return last
      else
        let text ← readNew i descriptor
        if text.isEmpty then return last
        else
          if showsNames && i ≠ last then head name f.label
          emit name text
          settle name
          return i

def delay : Nat := 20000

/-- The growth of files as it is told. The process that the tool does not outlive is asked for when
so many delays have passed. -/
def watch (name : String) (r : Request) (showsNames : Bool) :
    Nat → (last untilAsked : Nat) → (isAlone_ : Bool) → Showing Unit
  | 0, _, _, _ => call .rest
  | n + 1, last, untilAsked, isAlone_ => do
    let before := (← get).files
    let now ← (List.range before.length).foldlM (fun last i => do
      match (before[i]?).filter fun f => !f.isIgnored && f.descriptor?.isNone && r.retries with
      | some f => retry name r i f
      | none => pure ()
      check name showsNames last i) last
    heed
    if isAlone_ then conclude name 0
    else if untilAsked = 0 || now ≠ last then
      if ← isAlone r then watch name r showsNames n now 0 true
      else
        let wait := match r.interval with
          | .microseconds n => n / delay
          | .endless => looks
        call (.sleep delay)
        watch name r showsNames n now wait false
    else
      call (.sleep delay)
      watch name r showsNames n now (untilAsked - 1) false

def follow (name : String) (r : Request) (showsNames : Bool) : Showing Unit := do
  if (← call (.inspect 1)).toOption.isNone then fail name "standard output: Bad file descriptor"
  let last := (← get).files.length - 1
  let isTold ← isTold r
  if isTold then settle name
  let isTold ← if isTold && r.follows? = some .name then do
      let isTold ← watchesParents name ((← get).files.filter (!·.isIgnored))
      if !isTold then tell name "inotify cannot be used, reverting to polling"
      pure isTold
    else pure isTold
  if isTold then watch name r showsNames looks last 0 false
  else poll name r showsNames looks last false

end Shorthand.Tool.Tail
