import Shorthand.File.Tree
import Shorthand.Machine.Signal
/-!
What processes do. A process works on its own until it asks the system for something; what it does
then depends on the answer. So a process is a tree of questions, with a branch for every answer.
-/
set_option autoImplicit false

namespace Shorthand

structure Opening where
  reads : Bool := false
  writes : Bool := false
  creates : Bool := false
  empties : Bool := false
  appends : Bool := false
  isNew : Bool := false
  deriving DecidableEq, Repr

structure FileStatus where
  way : Way
  node : FileNode
  deriving DecidableEq, Repr

def FileStatus.size (s : FileStatus) : Nat :=
  match s.node with
  | .regular content _ => content.length
  | .program _ => 1
  | _ => 0

/-- What is known of an open stream: the file or device that it leads to, none if it leads to
another process, and whether anybody is left who may read what is written to it. -/
structure StreamStatus where
  file? : Option FileStatus
  isHeard : Bool := true
  deriving DecidableEq, Repr

inductive ProcessEnd where
  | exited (code : Nat)
  | killed (signal : Signal)
  deriving DecidableEq, Repr

def ProcessEnd.code : ProcessEnd → Nat
  | exited code => code
  | killed signal => 128 + signal

inductive Disposition where
  | standard
  | ignored
  | caught
  deriving DecidableEq, Repr

abbrev ProcessId := Nat

inductive Call where
  /-- Time passes. -/
  | pause
  | read (descriptor count : Nat)
  | write (descriptor : Nat) (octets : List Char)
  | openFile (path : String) (opening : Opening)
  /-- Another descriptor for the same stream, the least that is free from a number on; no program
  that is executed inherits it. -/
  | copyFrom (descriptor least : Nat)
  | copyTo (descriptor target : Nat)
  | close (descriptor : Nat)
  | pipe
  | enter (path : String)
  | directory
  | status (path : String) (followsLinks : Bool)
  | inspect (descriptor : Nat)
  | namesIn (path : String)
  /-- Another program in the place of this one. The first argument is its name. -/
  | execute (path : String) (args environment : List String)
  /-- The end of a child, or of any child. -/
  | wait (child : Option ProcessId) (isPatient : Bool)
  | kill (process : Int) (signal : Signal)
  | prepare (signal : Signal) (disposition : Disposition)
  | disposition (signal : Signal)
  /-- The signals that have come and were caught. -/
  | signals
  | ownId
  | parentId
  | sleep (microseconds : Nat)
  /-- A process that never goes on. -/
  | rest
  | mask (newMask : Option Nat)
  | time
  deriving DecidableEq, Repr

abbrev Call.Answer : Call → Type
  | pause => Unit
  | read .. => Except SystemError (List Char)
  | write .. => Except SystemError Nat
  | openFile .. => Except SystemError Nat
  | copyFrom .. => Except SystemError Nat
  | copyTo .. => Except SystemError Unit
  | close .. => Except SystemError Unit
  | pipe => Nat × Nat
  | enter .. => Except SystemError Unit
  | directory => String
  | status .. => Except SystemError FileStatus
  | inspect .. => Except SystemError StreamStatus
  | namesIn .. => Except SystemError (List String)
  | execute .. => SystemError
  | wait .. => Except SystemError (Option (ProcessId × ProcessEnd))
  | kill .. => Except SystemError Unit
  | prepare .. => Unit
  | disposition .. => Disposition
  | signals => List Signal
  | ownId => ProcessId
  | parentId => ProcessId
  | sleep .. => Unit
  | rest => Unit
  | mask .. => Nat
  | time => Nat

inductive Course where
  | exit (code : Nat)
  | call (c : Call) (next : c.Answer → Course)
  | fork (child : Course) (next : ProcessId → Course)

def Work (α : Type) : Type := (α → Course) → Course

namespace Work

variable {α β : Type}

instance : Monad Work where
  pure a := fun next => next a
  bind w f := fun next => w fun a => f a next

def call (c : Call) : Work c.Answer := fun next => .call c next

def exit (code : Nat) : Work α := fun _ => .exit code

def course (w : Work Nat) : Course := w .exit

def writeAll (descriptor : Nat) (octets : List Char) : Work (Except SystemError Unit) :=
  go (octets.length + 1) octets
where
  go : Nat → List Char → Work (Except SystemError Unit)
    | 0, _ | _, [] => pure (.ok ())
    | n + 1, octets => do
      match ← call (.write descriptor octets) with
      | .ok count => go n (octets.drop count)
      | .error e => pure (.error e)

def readAll (descriptor : Nat) : Nat → Work (Except SystemError (List Char))
  | 0 => pure (.ok [])
  | n + 1 => do
    match ← call (.read descriptor 65536) with
    | .ok [] => pure (.ok [])
    | .ok octets => return (← readAll descriptor n).map (octets ++ ·)
    | .error .interrupted => readAll descriptor n
    | .error e => pure (.error e)

end Work

end Shorthand
