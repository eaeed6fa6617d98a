/-!
The words behind the program's name. Switches of the program itself stand before the first other
word; from that word on everything is taken as it is.
-/
set_option autoImplicit false

namespace Shorthand

/-- Why the words are not taken: they ask for a text, or misuse a switch. -/
inductive Refusal where
  | help
  | version
  | repeated
  | valued
  deriving DecidableEq, Repr

def Refusal.exitCode : Refusal → Nat
  | help | version => 0
  | repeated | valued => 2

structure Arguments where
  debug : Bool := false
  words : List String := []
  deriving DecidableEq, Repr

namespace Arguments

inductive Switch where
  | debug
  | stop (refusal : Refusal)
  deriving DecidableEq, Repr

def shortSwitch? (c : Char) : Option Switch :=
  if c = 'd' then some .debug
  else if c = 'h' then some (.stop .help)
  else if c = 'V' then some (.stop .version)
  else none

def longSwitch? (name : List Char) : Option Switch :=
  if name = "debug".toList then some .debug
  else if name = "help".toList then some (.stop .help)
  else if name = "version".toList then some (.stop .version)
  else none

/-- The switches in a word, if it has nothing else: one with a long name, or letters behind one
dash. -/
def switches? (word : String) : Option (List Switch) :=
  match word.toList with
  | '-' :: '-' :: body =>
    let name := body.takeWhile (· ≠ '=')
    (longSwitch? name).map fun s => if name = body then [s] else [.stop .valued]
  | '-' :: c :: r => (c :: r).mapM shortSwitch?
  | _ => none

def apply (debug : Bool) : Switch → Except Refusal Bool
  | .debug => if debug then .error .repeated else .ok true
  | .stop refusal => .error refusal

/-- The words from here on, with the state of the debug switch. The first `--` only ends the
switches. -/
def read (debug : Bool) : List String → Except Refusal Arguments
  | [] => .ok ⟨debug, []⟩
  | word :: rest =>
    if word = "--" then .ok ⟨debug, rest⟩
    else
      match switches? word with
      | none => .ok ⟨debug, word :: rest⟩
      | some switches => do read (← switches.foldlM apply debug) rest

def parse (words : List String) : Except Refusal Arguments := read false words

def isDebugSwitch (word : String) : Bool := word = "-d" || word = "--debug"

/-- The debug switches that stand among the words, up to the first `--`, are taken out and count. -/
def takeDebug (a : Arguments) : Arguments where
  debug := a.debug || (a.words.takeWhile (· ≠ "--")).any isDebugSwitch
  words := (a.words.takeWhile (· ≠ "--")).filter (!isDebugSwitch ·) ++ a.words.dropWhile (· ≠ "--")

end Arguments

end Shorthand
