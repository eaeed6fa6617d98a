import Shorthand.File.Standard
import Shorthand.Machine.Call
import Shorthand.Terminal.Output
set_option autoImplicit false

namespace Shorthand

abbrev StreamId := Nat
abbrev PipeId := Nat

inductive Outlet where
  | file (way : Way)
  | device (d : Device)
  | pipe (id : PipeId)
  | keeper (process : ProcessId) (channel : Channel)
  | screen (channel : Channel)
  deriving DecidableEq, Repr

structure Stream where
  id : StreamId
  outlet : Outlet
  reads : Bool
  writes : Bool
  appends : Bool := false
  position : Nat := 0
  deriving DecidableEq, Repr

structure Descriptor where
  number : Nat
  stream : StreamId
  isPrivate : Bool := false
  deriving DecidableEq, Repr

structure Process where
  id : ProcessId
  parent : ProcessId
  course : Course
  descriptors : List Descriptor
  directory : Way
  mask : Nat := 18
  ignored : List Signal := []
  caught : List Signal := []
  pending : List Signal := []
  isStopped : Bool := false
  fatal : Option Signal := none
  isLeaving : Bool := false
  time : Nat := 0
  ending : Option ProcessEnd := none

structure Kept where
  process : ProcessId
  channel : Channel
  octets : List Char
  deriving DecidableEq, Repr

structure Machine where
  files : FileTree
  directory : Way
  environment : List (String × String)
  program : String → List String → List String → Course
  processes : List Process := []
  streams : List Stream := []
  pipes : List (PipeId × List Char) := []
  kept : List Kept := []
  abandoned : List ProcessId := []
  screen : List (Channel × List Char) := []
  clock : Nat := 0
  outsideTime : Nat := 0
  fresh : Nat := 100

namespace Machine

def adopter : ProcessId := 1

def outsider : ProcessId := 2

def process? (m : Machine) (id : ProcessId) : Option Process := m.processes.find? (·.id = id)

def update (m : Machine) (id : ProcessId) (f : Process → Process) : Machine :=
  { m with processes := m.processes.map fun p => if p.id = id then f p else p }

def stream? (m : Machine) (id : StreamId) : Option Stream := m.streams.find? (·.id = id)

def updateStream (m : Machine) (id : StreamId) (f : Stream → Stream) : Machine :=
  { m with streams := m.streams.map fun s => if s.id = id then f s else s }

def streamOf? (m : Machine) (p : Process) (descriptor : Nat) : Option Stream :=
  (p.descriptors.find? (·.number = descriptor)).bind fun d => m.stream? d.stream

def isOpen (m : Machine) (id : StreamId) : Bool :=
  m.processes.any fun p => p.descriptors.any (·.stream = id)

def tidied (m : Machine) : Machine :=
  let streams := m.streams.filter fun s => m.isOpen s.id
  { m with
    streams
    pipes := m.pipes.filter fun e => streams.any (·.outlet = .pipe e.1) }

def hasReader (m : Machine) (pipe : PipeId) : Bool :=
  m.streams.any fun s => s.outlet = .pipe pipe && s.reads

def hasWriter (m : Machine) (pipe : PipeId) : Bool :=
  m.streams.any fun s => s.outlet = .pipe pipe && s.writes

def contentOf (m : Machine) (pipe : PipeId) : List Char :=
  ((m.pipes.find? (·.1 = pipe)).map (·.2)).getD []

def setContent (m : Machine) (pipe : PipeId) (octets : List Char) : Machine :=
  { m with pipes := m.pipes.map fun e => if e.1 = pipe then (pipe, octets) else e }

def addStream (m : Machine) (outlet : Outlet) (reads writes : Bool) (appends : Bool := false) :
    StreamId × Machine :=
  (m.fresh, { m with
    streams := m.streams ++ [{ id := m.fresh, outlet, reads, writes, appends }]
    fresh := m.fresh + 1 })

def freeDescriptor (p : Process) (least : Nat) : Nat :=
  ((List.range (p.descriptors.length + 1)).map (least + ·)).find?
    (fun n => !p.descriptors.any (·.number = n))
    |>.getD least

def attach (m : Machine) (id : ProcessId) (d : Descriptor) : Machine :=
  (m.update id fun p => { p with
    descriptors := p.descriptors.filter (·.number ≠ d.number) ++ [d] }).tidied

def Process.after (id : ProcessId) (ending : ProcessEnd) (p : Process) : Option Process :=
  if p.id = id then
    if p.parent = adopter then none
    else some { p with ending := some ending, descriptors := [], course := .exit 0 }
  else if p.parent = id then
    if p.ending.isSome then none else some { p with parent := adopter }
  else some p

def Process.catching (s : Signal) (p : Process) : Process :=
  if p.caught.contains s && !p.pending.contains s then { p with pending := p.pending ++ [s] } else p

/-- A process ends: what it had open is closed, its parent may be told, and its children have nobody
to report to. It comes last from now on, so that ends are reported in their order. -/
def finish (m : Machine) (id : ProcessId) (ending : ProcessEnd) : Machine :=
  let parent? := (m.process? id).map (·.parent)
  let told :=
    m.processes.map fun p => if some p.id = parent? then Process.catching Signal.child p else p
  let processes := told.filterMap (Process.after id ending)
  let m : Machine :=
    { m with processes := processes.filter (·.id ≠ id) ++ processes.filter (·.id = id) }
  m.tidied

/-- How long it takes until a process notices that it need not wait any more: if it has waited for a
short time, and otherwise. -/
def shortWake : Nat := 20
def longWake : Nat := 60

def noticeTime (m : Machine) (p : Process) : Nat :=
  max p.time (m.clock + if p.time + 1000 < m.clock then longWake else shortWake)

/-- A signal from a process comes to one that it ends: at once if it is the same, and otherwise a
little later. -/
def strike (m : Machine) (sender id : ProcessId) (s : Signal) : Machine :=
  if sender = id then m.finish id (.killed s)
  else m.update id fun p => { p with fatal := p.fatal.or (some s), time := m.clock + shortWake }

def deliver (m : Machine) (sender id : ProcessId) (s : Signal) : Machine :=
  match m.process? id with
  | none => m
  | some p =>
    if p.ending.isSome || s = 0 then m
    else if s = Signal.continue_ then
      m.update id fun p => { Process.catching s p with isStopped := false }
    else if s = Signal.kill then m.strike sender id s
    else if s = Signal.stop then m.update id fun p => { p with isStopped := true }
    else if p.ignored.contains s then m
    else if p.caught.contains s then
      m.update id (Process.catching s)
    else
      match Signal.effect s with
      | .ends => m.strike sender id s
      | .stops => m.update id fun p => { p with isStopped := true }
      | .goesOn => m

end Machine

end Shorthand
