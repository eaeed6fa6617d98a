import Shorthand.Posix.Evaluator
set_option autoImplicit false

namespace Shorthand.Posix

namespace ProcessEnd

def complaint : ProcessEnd → String
  | .exited _ => ""
  | .killed s => if s = Signal.interrupt || s = Signal.pipe then "" else Signal.description s

def description : ProcessEnd → String
  | .exited 0 => "Done"
  | .exited code => "Done(" ++ toString code ++ ")"
  | .killed s => Signal.description s

end ProcessEnd

namespace Job

open Evaluator

/-- A job under the least number that is free. Jobs that are over and were waited for make room. -/
def add (members : List ProcessId) (s : State) : State :=
  let jobs := s.jobs.filter fun j => !(j.isDone && j.isWaitedFor)
  let number := ((List.range (jobs.length + 1)).map (· + 1)).find? fun n => !jobs.any (·.number = n)
  { s with jobs := { number := number.getD 1, members := members.map fun id => { id } } :: jobs }

def remove (number : Nat) (s : State) : State :=
  { s with jobs := s.jobs.filter (·.number ≠ number) }

def note (id : ProcessId) (ending : ProcessEnd) (s : State) : State :=
  let noted (j : Job) : Job :=
    { j with
      members := j.members.map fun w =>
        if w.id = id && w.ending.isNone then { w with ending := some ending } else w }
  { s with jobs := s.jobs.map noted }

def holds (j : Job) (id : ProcessId) : Bool := j.members.any fun w => w.id = id && w.ending.isNone

inductive Outcome where
  | ended
  | nothing
  | signalled
  deriving DecidableEq

def waitOnce (number? : Option Nat) (isPatient : Bool) : Evaluator Outcome := do
  match ← call (.wait none isPatient) with
  | .ok (some (id, ending)) =>
    let isOwn := (← get).jobs.any fun j => some j.number = number? && j.holds id
    modify (note id ending)
    let complaint := ProcessEnd.complaint ending
    if isOwn && !complaint.isEmpty then
      let _ ← write 2 (complaint ++ "\n").toList
    return .ended
  | .ok none => return .nothing
  | .error .interrupted =>
    collect
    return .signalled
  | .error _ => return .nothing

def drainFor (number? : Option Nat) : Nat → Evaluator Unit
  | 0 => pure ()
  | n + 1 => do if (← waitOnce number? false) = .ended then drainFor number? n

def drain (number? : Option Nat) : Evaluator Unit := do
  if !(← get).jobs.isEmpty then drainFor number? Parser.patience

def job? (s : State) (number : Nat) : Option Job := s.jobs.find? (·.number = number)

def awaitFor (number : Nat) : Nat → Evaluator Unit
  | 0 => pure ()
  | n + 1 => do
    if ((job? (← get) number).any fun j => !j.isDone) then
      if (← waitOnce (some number) true) ≠ .nothing then awaitFor number n

def await (number : Nat) : Evaluator Nat := do
  awaitFor number Parser.patience
  drain (some number)
  let code := ((job? (← get) number).map Job.code).getD 0
  modify (remove number)
  return code

def line (s : State) (withId : Bool) (j : Job) : String :=
  let mark := match s.jobs with
    | first :: second :: _ => if j = first then "+" else if j = second then "-" else " "
    | _ => "+"
  let start := "[" ++ toString j.number ++ "] " ++ mark ++ " "
  let id := if withId then ((j.members.head?.map fun w => toString w.id ++ " ").getD "") else ""
  let text := start ++ id ++ if j.isDone then ProcessEnd.description j.ending else "Running"
  let gap := if text.length < 33 then 33 - text.length else 0
  text ++ .ofList (List.replicate (max gap 1) ' ')

def further (withId : Bool) (j : Job) : String :=
  if withId then
    String.join (j.members.tail.map fun w =>
      let text := "      " ++ toString w.id ++ " "
      " |\n" ++ text ++ .ofList (List.replicate (33 - text.length) ' '))
  else String.join (j.members.tail.map fun _ => " | ")

def find (s : State) (name? : Option String) : Except String Job :=
  let current : Except String Job := (s.jobs.head?).elim (.error "No current job") .ok
  match name? with
  | none => current
  | some name =>
    let missing : Except String Job := .error ("No such job: " ++ name)
    match name.toList with
    | '%' :: rest =>
      match rest with
      | [] | ['+'] | ['%'] => current
      | ['-'] => (s.jobs[1]?).elim (.error "No previous job") .ok
      | _ => if rest.all Char.isDigit then (job? s (decimal rest)).elim missing .ok else missing
    | _ => missing

end Job

end Shorthand.Posix
