import Shorthand.Posix.State
set_option autoImplicit false

namespace Shorthand.Posix

inductive Stop where
  | failure
  | exit
  | finish
  deriving DecidableEq, Repr

def Evaluator (α : Type) : Type := State → (Except Stop α → State → Course) → Course

namespace Evaluator

variable {α β : Type}

instance : Monad Evaluator where
  pure a := fun s next => next (.ok a) s
  bind m f := fun s next => m s fun
    | .ok a, s => f a s next
    | .error e, s => next (.error e) s

instance : Inhabited (Evaluator α) := ⟨fun s next => next (.error .failure) s⟩

def get : Evaluator State := fun s next => next (.ok s) s

def modify (f : State → State) : Evaluator Unit := fun s next => next (.ok ()) (f s)

def stop (e : Stop) : Evaluator α := fun s next => next (.error e) s

def attempt (m : Evaluator α) : Evaluator (Except Stop α) := fun s next => m s fun r => next (.ok r)

def settle : Except Stop α → Evaluator α
  | .ok a => pure a
  | .error e => stop e

def call (c : Call) : Evaluator c.Answer := fun s next => .call c fun a => next (.ok a) s

def course (m : Evaluator Unit) (s : State) : Course := m s fun _ s => .exit s.status

def fork (child : Evaluator Unit) : Evaluator ProcessId := fun s next =>
  .fork (child.course s) fun id => next (.ok id) s

def setStatus (status : Nat) : Evaluator Unit := modify fun s => { s with status }

def write (descriptor : Nat) (text : List Char) : Evaluator Bool :=
  go (text.length + 1) text
where
  go : Nat → List Char → Evaluator Bool
    | 0, _ | _, [] => pure true
    | n + 1, text => do
      match ← call (.write descriptor text) with
      | .ok count => go n (text.drop count)
      | .error .interrupted => go n text
      | .error _ => return false

def print (text : String) : Evaluator Unit :=
  modify fun s => { s with output := s.output ++ text.toList }

def flush : Evaluator Bool := do
  let text := (← get).output
  modify fun s => { s with output := [] }
  write 1 text

def warn (message : String) : Evaluator Unit := do
  let s ← get
  let name := s.commandName.elim "" (· ++ ": ")
  let _ ← write 2 (s.name ++ ": " ++ toString s.line ++ ": " ++ name ++ message ++ "\n").toList

def fail (message : String) : Evaluator α := do
  setStatus 2
  warn message
  let _ ← flush
  stop .failure

def change (f : State → Except String State) : Evaluator Unit := do
  match f (← get) with
  | .ok s => modify fun _ => s
  | .error message => fail message

def assign (name value : String) : Evaluator Unit := change (·.assign name (some value))

def collect : Evaluator Unit := do
  if !(← get).traps.isEmpty then
    let signals ← call .signals
    modify fun s => { s with pending := s.pending ++ signals.filter (!s.pending.contains ·) }

def readAll (descriptor : Nat) : Evaluator (List Char) :=
  go Parser.patience []
where
  go : Nat → List (List Char) → Evaluator (List Char)
    | 0, read => return read.reverse.flatten
    | n + 1, read => do
      match ← call (.read descriptor 65536) with
      | .ok [] => return read.reverse.flatten
      | .ok octets => go n (octets :: read)
      | .error .interrupted =>
        collect
        go n read
      | .error _ => return read.reverse.flatten

end Evaluator

end Shorthand.Posix
