import Shorthand.Machine.Service
/-!
Who does the next thing. Every process has a processor of its own: it goes on in its own time until
it must wait, and of all that can go on the one that has come least far is the next. So things
happen in the order of time.
-/
set_option autoImplicit false

namespace Shorthand.Machine

/-- How long it takes to answer a call, to make a process, to begin one that was made, to begin a
program and to end, in microseconds. -/
def callTime : Nat := 2
def forkTime : Nat := 60
def birthTime : Nat := 200
def executeTime : Nat := 400
def endTime : Nat := 40

def spend (m : Machine) (id : ProcessId) (time : Nat) : Machine :=
  m.update id fun p => { p with time := p.time + time }

def setCourse (m : Machine) (id : ProcessId) (course : Course) : Machine :=
  m.update id fun p => if p.ending.isSome then p else { p with course }

def forked (m : Machine) (p : Process) (child : Course) : ProcessId × Machine :=
  let id := m.fresh
  let child : Process :=
    { p with id, parent := p.id, course := child, pending := [], time := p.time + birthTime }
  (id, { m with processes := m.processes ++ [child], fresh := id + 1 })

def begun (m : Machine) (id : ProcessId) (course : Course) : Machine :=
  (m.update id fun p => { p with
    course
    caught := []
    pending := []
    descriptors := p.descriptors.filter (!·.isPrivate) }).tidied

def canMove (m : Machine) (p : Process) : Bool :=
  p.ending.isNone && (p.fatal.isSome || !p.isStopped && match p.course with
    | .call c _ => !m.hasToWait p c
    | _ => true)

def move (m : Machine) (p : Process) : Machine :=
  if let some s := p.fatal then m.finish p.id (.killed s)
  else
    match p.course with
    | .exit code =>
      if p.isLeaving then m.finish p.id (.exited (code % 256))
      else (m.update p.id fun p => { p with isLeaving := true }).spend p.id endTime
    | .fork child next =>
      let (id, m) := m.forked p child
      (m.setCourse p.id (next id)).spend p.id forkTime
    | .call (.execute path args environment) next =>
      match m.programAt p.directory path with
      | .ok name => (m.begun p.id (m.program name args environment)).spend p.id executeTime
      | .error e => (m.setCourse p.id (next e)).spend p.id callTime
    | .call (.sleep time) next => (m.setCourse p.id (next ())).spend p.id (callTime + time)
    | .call c next =>
      let (a, m) := m.answer p c
      (m.setCourse p.id (next a)).spend p.id callTime

def awakened (m : Machine) : Machine :=
  { m with processes := m.processes.map fun p =>
      if p.time < m.clock && m.canMove p then { p with time := m.noticeTime p } else p }

def next? (m : Machine) : Option Process :=
  m.processes.foldl (fun best p =>
    if (best.all fun b => p.time < b.time) && m.canMove p then some p else best) none

/-- The machine a little later; none if nobody will ever go on. -/
def later? (m : Machine) : Option Machine :=
  let m := m.awakened
  m.next?.map fun p => { m with clock := max m.clock p.time }.move p

end Shorthand.Machine
