set_option autoImplicit false

namespace Shorthand.Posix

structure Limit where
  letter : Char
  name : String
  unit : UInt64
  soft : UInt64
  hard : UInt64
  deriving DecidableEq, Repr

namespace Limit

def unlimited : UInt64 := 0xffffffffffffffff

def initial : List Limit :=
  [⟨'t', "time(seconds)", 1, unlimited, unlimited⟩,
    ⟨'f', "file(blocks)", 512, unlimited, unlimited⟩,
    ⟨'d', "data(kbytes)", 1024, unlimited, unlimited⟩,
    ⟨'s', "stack(kbytes)", 1024, 0x800000, unlimited⟩,
    ⟨'c', "coredump(blocks)", 512, 0, unlimited⟩,
    ⟨'m', "memory(kbytes)", 1024, unlimited, unlimited⟩,
    ⟨'l', "locked memory(kbytes)", 1024, 0x800000, 0x800000⟩,
    ⟨'p', "process", 1, unlimited, unlimited⟩,
    ⟨'n', "nofiles", 1, 0x100000, 0x100000⟩,
    ⟨'v', "vmemory(kbytes)", 1024, unlimited, unlimited⟩,
    ⟨'w', "locks", 1, unlimited, unlimited⟩,
    ⟨'r', "rtprio", 1, 0, 0⟩]

def letters : List Char := initial.map (·.letter)

def shown (l : Limit) (bound : UInt64) : String :=
  if bound = unlimited then "unlimited" else toString (bound / l.unit).toInt64

def bound? (l : Limit) (word : String) : Option UInt64 :=
  if word = "unlimited" then some unlimited
  else if word.toList.all Char.isDigit then
    some (word.toList.foldl (fun n c => n * 10 + (c.toNat - '0'.toNat).toUInt64) 0 * l.unit)
  else none

inductive Refusal where
  | crossed
  | raised
  deriving DecidableEq, Repr

def Refusal.text : Refusal → String
  | .crossed => "Invalid argument"
  | .raised => "Operation not permitted"

def bounded (l : Limit) (soft hard : UInt64) : Except Refusal Limit :=
  if hard < soft then .error .crossed
  else if l.hard < hard then .error .raised
  else .ok { l with soft, hard }

end Limit

end Shorthand.Posix
