/-!
Slots that tasks take and give back, in the order in which they ask. A task that asks for more slots
than are free takes those and waits for the rest; slots that come back go to the first that waits.
-/
set_option autoImplicit false

namespace Shorthand

abbrev TaskId := Nat

structure Waiter where
  task : TaskId
  /-- The slots that it already holds. -/
  held : Nat
  /-- The slots that it still needs. -/
  need : Nat
  deriving DecidableEq, Repr

structure Slots where
  free : Nat
  /-- Those that wait, the first one first. -/
  waiting : List Waiter := []
  isClosed : Bool := false
  deriving DecidableEq, Repr

namespace Slots

inductive Reply where
  | granted
  | queued
  | refused
  deriving DecidableEq, Repr

def ask (s : Slots) (task : TaskId) (count : Nat) : Reply × Slots :=
  if s.isClosed then (.refused, s)
  else if count ≤ s.free then (.granted, { s with free := s.free - count })
  else (.queued, { s with free := 0, waiting := s.waiting ++ [⟨task, s.free, count - s.free⟩] })

/-- Slots handed to those that wait, in order: the slots left over, those that go on waiting, and
the tasks that now have all they need. -/
def handOut : Nat → List Waiter → Nat × List Waiter × List TaskId
  | count, [] => (count, [], [])
  | count, w :: rest =>
    if w.need ≤ count then
      let (left, waiting, served) := handOut (count - w.need) rest
      (left, waiting, w.task :: served)
    else (0, { w with held := w.held + count, need := w.need - count } :: rest, [])

def giveBack (s : Slots) (count : Nat) : Slots × List TaskId :=
  let (left, waiting, served) := handOut count s.waiting
  ({ s with free := s.free + left, waiting }, served)

/-- A task no longer waits; the slots that it held are given back. -/
def leave (s : Slots) (task : TaskId) : Slots × List TaskId :=
  let held := ((s.waiting.find? (·.task = task)).map (·.held)).getD 0
  giveBack { s with waiting := s.waiting.filter (·.task ≠ task) } held

def heldBy : List Waiter → Nat
  | [] => 0
  | w :: rest => w.held + heldBy rest

def close (s : Slots) : Slots :=
  { free := s.free + heldBy s.waiting, waiting := [], isClosed := true }

end Slots

end Shorthand
