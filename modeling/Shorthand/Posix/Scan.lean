import Shorthand.Posix.Syntax
set_option autoImplicit false

namespace Shorthand.Posix

inductive Arrow where
  | to (direction : Direction)
  /-- A text that follows in the script, perhaps with tabs at the starts of its lines that do not
  count. -/
  | document (stripsTabs : Bool)
  deriving DecidableEq, Repr

inductive Token where
  | word (w : Word)
  | keyword (text : String)
  | operator (text : String)
  | redirection (descriptor : Nat) (arrow : Arrow)
  | newline
  | endOfFile

namespace Token

def name : Token → String
  | word _ => "word"
  | keyword text | operator text => "\"" ++ text ++ "\""
  | redirection .. => "redirection"
  | newline => "newline"
  | endOfFile => "end of file"

def isNewline : Token → Bool
  | newline => true
  | _ => false

def isEnd : Token → Bool
  | endOfFile => true
  | _ => false

def isKeyword (text : String) : Token → Bool
  | keyword s => s = text
  | _ => false

def isOperator (text : String) : Token → Bool
  | operator s => s = text
  | _ => false

def endsList : Token → Bool
  | keyword s => ["do", "done", "elif", "else", "esac", "fi", "then", "\x7d"].contains s
  | operator s => [";;", ")"].contains s
  | endOfFile => true
  | _ => false

end Token

inductive Flaw where
  | openQuotes
  | openBraces
  | openArithmetic
  | openBackquotes
  | badLoopVariable
  | badFunctionName
  /-- A token where it may not stand, and the one that would have been right. -/
  | unexpected (token : String) (expected : Option String)
  deriving DecidableEq, Repr

def Flaw.message : Flaw → String
  | openQuotes => "Syntax error: Unterminated quoted string"
  | openBraces => "Syntax error: Missing '\x7d'"
  | openArithmetic => "Syntax error: Missing '))'"
  | openBackquotes => "Syntax error: EOF in backquote substitution"
  | badLoopVariable => "Syntax error: Bad for loop variable"
  | badFunctionName => "Syntax error: Bad function name"
  | unexpected token expected =>
    "Syntax error: " ++ token ++ " unexpected" ++ expected.elim "" fun e =>
      " (expecting " ++ e ++ ")"

structure Fault where
  line : Nat
  flaw : Flaw
  /-- How many characters of the script stand behind the place where the reader stopped. -/
  rest : Nat := 0
  deriving DecidableEq, Repr

structure Source where
  text : List Char
  /-- The alias, which does not stand for anything in its own text. -/
  alias? : Option String := none
  passesOn : Bool := false
  /-- Aliases in whose place this one stands alone, which stay in use as long as it. -/
  held : List String := []
  deriving DecidableEq, Repr

def Source.names (s : Source) : List String := s.alias?.toList ++ s.held

structure DueDocument where
  number : Nat
  mark : List Char
  stripsTabs : Bool
  isLiteral : Bool
  deriving DecidableEq, Repr

structure Scan where
  sources : List Source
  line : Nat := 1
  aliases : List (String × String) := []
  released : List String := []
  findsAlias : Bool := false
  isMark : Bool := false
  last : Token := .endOfFile
  lastWord : Word := []
  isPushed : Bool := false
  due : List DueDocument := []
  documents : List (Nat × Word) := []
  nextDocument : Nat := 0

def Scan.remaining (s : Scan) : List Char := (s.sources.getLast?.map (·.text)).getD []

abbrev Parser := StateT Scan (Except Fault)

namespace Parser

def fail {α : Type} (flaw : Flaw) : Parser α := do
  let s ← get
  throw ⟨s.line, flaw, s.remaining.length⟩

def patience : Nat := 1000000000

def nextFrom : List Source → List Source → Option Char × List Source × List Source
  | ended, [] => (none, [], ended)
  | ended, source :: rest =>
    match source.text with
    | [] => nextFrom (source :: ended) rest
    | c :: text => (some c, { source with text } :: rest, ended)

/-- The next character; none at the end of the script. -/
def next : Parser (Option Char) := do
  let s ← get
  let (c, sources, ended) := nextFrom [] s.sources
  set { s with
    sources
    released := ended.flatMap Source.names
    findsAlias := s.findsAlias || ended.any Source.passesOn
    line := if c = some '\n' then s.line + 1 else s.line }
  return c

def putBack (c : Option Char) : Parser Unit := do
  match c with
  | none => pure ()
  | some c => modify fun s =>
    { s with
      sources := match s.sources with
        | [] => [{ text := [c] }]
        | source :: rest => { source with text := c :: source.text } :: rest
      line := if c = '\n' then s.line - 1 else s.line }

def nextJoined : Parser (Option Char) :=
  go patience
where
  go : Nat → Parser (Option Char)
    | 0 => return none
    | n + 1 => do
      match ← next with
      | some '\\' =>
        match ← next with
        | some '\n' => go n
        | c =>
          putBack c
          return some '\\'
      | c => return c

/-- A text that is read before the others. The aliases whose texts have just ended wait for it. -/
def push (source : Source) : Parser Unit :=
  modify fun s =>
    { s with sources := { source with held := s.released } :: s.sources, released := [] }

def isFree (s : Scan) (name : String) : Bool :=
  !s.released.contains name && !s.sources.any fun t => t.names.contains name

def pushToken : Parser Unit := modify fun s => { s with isPushed := true }

def refuse {α : Type} (expected : Option Token) : Parser α := do
  fail (.unexpected (← get).last.name (expected.map Token.name))

end Parser

end Shorthand.Posix
