import Shorthand.Host.Basic
import Shorthand.Machine.Schedule
import Shorthand.SortedMap
set_option autoImplicit false

namespace Shorthand.Machine

def holdsNul (s : String) : Bool := s.toList.contains '\x00'

def isClean (r : Request) : Bool :=
  !(holdsNul r.program || r.args.any holdsNul || r.directory.any holdsNul ||
    r.environment.any fun e => holdsNul e.1 || holdsNul e.2)

/-- The first program among some paths. A path that leads to no program is remembered only if it
leads to something else. -/
def firstProgram (m : Machine) (directory : Way) :
    (wasRefused : Bool) → List String → Except SystemError String
  | wasRefused, [] => .error (if wasRefused then .notPermitted else .notFound)
  | wasRefused, path :: rest =>
    match m.programAt directory path with
    | .ok name => .ok name
    | .error .notPermitted => m.firstProgram directory true rest
    | .error .notFound | .error .misplaced => m.firstProgram directory wasRefused rest
    | .error e => .error e

/-- The program that a name stands for; a name without a slash is looked up in the search path. -/
def findProgram (m : Machine) (directory : Way) (searchPath name : String) :
    Except SystemError String :=
  if name.toList.contains '/' then m.programAt directory name
  else if name.length > FileTree.nameLimit then .error .nameTooLong
  else m.firstProgram directory false
    ((searchPath.splitOn ":").map fun place => if place.isEmpty then name else place ++ "/" ++ name)

def startDirectory (m : Machine) : Option String → Except SystemError Way
  | none => .ok m.directory
  | some path =>
    match m.files.look m.directory (Text.toOctets path) with
    | .error e => .error e
    | .ok (way, .directory) => .ok way
    | .ok _ => .error .misplaced

def start (m : Machine) (r : Request) : Except SystemError (ProcessId × Machine) := do
  if !isClean r then throw .nulByte
  let directory ← m.startDirectory r.directory
  let environment := SortedMap.ofList (m.environment ++ r.environment)
  let name := Text.toOctets r.program
  let program ← m.findProgram directory (Text.toOctets ((environment.get? "PATH").getD "")) name
  let environment := environment.entries.map fun e => Text.toOctets (e.1 ++ "=" ++ e.2)
  let id := m.fresh
  let time := max m.clock m.outsideTime + executeTime
  let outlet (channel : Channel) : Outlet :=
    if r.isCaptured then .keeper id channel else .screen channel
  let m := { m with fresh := id + 1 }
  let (input, m) := m.addStream (.device .null) true false
  let (output, m) := m.addStream (outlet .out) false true
  let (errors, m) := m.addStream (outlet .err) false true
  let process : Process :=
    { id
      parent := outsider
      course := m.program program (name :: r.args.map Text.toOctets) environment
      descriptors := [{ number := 0, stream := input }, { number := 1, stream := output },
        { number := 2, stream := errors }]
      directory
      time }
  return (id, { m with processes := m.processes ++ [process], outsideTime := time })

def keptOf (m : Machine) (id : ProcessId) (channel : Channel) : String :=
  Text.ofOctets ((m.kept.filter fun k => k.process = id && k.channel = channel).flatMap (·.octets))

def isKeeping (m : Machine) (id : ProcessId) : Bool :=
  m.streams.any fun s => match s.outlet with
    | .keeper process _ => process = id
    | _ => false

def ended? (m : Machine) : Option (ProcessId × Ending) :=
  m.processes.findSome? fun p =>
    if p.parent = outsider && !m.isKeeping p.id then
      p.ending.map fun e => (p.id, ⟨e.code, m.keptOf p.id .out, m.keptOf p.id .err⟩)
    else none

def nextEnd? : Nat → Machine → Option ((ProcessId × Ending) × Machine)
  | 0, _ => none
  | n + 1, m =>
    match m.ended? with
    | some (id, ending) =>
      some ((id, ending), { m with
        processes := m.processes.filter (·.id ≠ id)
        kept := m.kept.filter (·.process ≠ id) })
    | none => m.later?.bind (nextEnd? n)

def patience : Nat := 1000000000

/-- A process goes on without anybody who reads its output or waits for its end. -/
def leave (m : Machine) (id : ProcessId) : Machine :=
  let m := { m with abandoned := id :: m.abandoned, kept := m.kept.filter (·.process ≠ id) }
  { m with processes := m.processes.filterMap fun p =>
      if p.id ≠ id then some p else if p.ending.isSome then none
        else some { p with parent := adopter } }

def screenText (m : Machine) (channel : Channel) : String :=
  Text.ofOctets ((m.screen.filter (·.1 = channel)).flatMap (·.2))

instance : Host Machine where
  start r m := m.start r
  next? m := (nextEnd? patience m).map fun ended => ((ended.1.1, .ok ended.1.2), ended.2)
  leave id m := m.leave id
  takeScreen m :=
    (([Channel.out, .err].map fun c => (c, m.screenText c)).filterMap fun e =>
      if e.2.isEmpty then none else some (.raw e.1 e.2), { m with screen := [] })

end Shorthand.Machine
