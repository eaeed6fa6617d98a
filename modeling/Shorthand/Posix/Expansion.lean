import Shorthand.Posix.Arithmetic
import Shorthand.Posix.Evaluator
import Shorthand.Posix.Splitting
/-!
What words stand for: homes, parameters, the output of commands and the values of expressions are
put in their places; then the text is split into fields, and patterns become the names of files.
-/
set_option autoImplicit false

namespace Shorthand.Posix

structure Manner where
  splits : Bool := false
  isInBraces : Bool := false
  findsHome : Bool := true
  isSetting : Bool := false
  isBehindEquals : Bool := false

namespace Manner

def field : Manner := { splits := true }
def setting : Manner := { findsHome := false, isSetting := true }
def quoted : Manner := { findsHome := false }

end Manner

namespace Expansion

open Evaluator

abbrev Capture := Option Command → Evaluator (List Char)

def joined (separator : Option Char) (texts : List String) : List Char :=
  separator.toList.intercalate (texts.map String.toList)

def separator (s : State) (m : Manner) (isQuoted : Bool) (name : String) : Option Char :=
  let ifs? := s.get? "IFS"
  if m.splits && (isQuoted && name = "@" || !isQuoted && ifs?.isSome) then some '\x00'
  else if m.splits && !isQuoted then some ' '
  else ifs?.elim (some ' ') (·.toList.head?)

def value? (s : State) (m : Manner) (isQuoted : Bool) (name : String) : Option (List Char) :=
  match name with
  | "$" => some (toString s.ownId).toList
  | "?" => some (toString s.status).toList
  | "#" => some (toString s.parameters.length).toList
  | "!" => s.background?.map fun id => (toString id).toList
  | "-" => some s.flagLetters.toList
  | "@" | "*" => some (joined (separator s m isQuoted name) s.parameters)
  | _ =>
    if name.toList.all Char.isDigit then
      match decimal name.toList with
      | 0 => some s.name.toList
      | n + 1 => s.parameters[n]?.map String.toList
    else (s.get? name).map String.toList

def isMarked (isQuoted : Bool) (c : Char) : Bool :=
  ('\x81' ≤ c && c ≤ '\x88') || (isQuoted && "!*?[=~:/-]\\".toList.contains c)

def placed (s : State) (isQuoted : Bool) (name : String) (value : List Char) : List Cell :=
  let cells := value.map (.char isQuoted)
  if !isQuoted then Cell.part false cells
  else if name = "@" && !s.parameters.isEmpty then Cell.part true cells
  else cells

def homeOf? (user : String) : Evaluator (Option String) := do
  match ← call (.openFile "/etc/passwd" { reads := true }) with
  | .error _ => return none
  | .ok descriptor =>
    let text ← readAll descriptor
    let _ ← call (.close descriptor)
    let lines := ((String.ofList text).splitOn "\n").map fun line => line.splitOn ":"
    return (lines.find? (·.head? = some user)).bind (·[5]?)

/-- The name behind a tilde and what follows it; none if the tilde is no home. -/
def userAt (isSetting : Bool) (pieces : List Piece) : Option (String × List Piece) :=
  let ends (c : Char) : Bool := c = '/' || (isSetting && c = ':')
  let name := (pieces.takeWhile fun p => p.bare?.any (!ends ·)).filterMap Piece.bare?
  let rest := pieces.drop name.length
  match rest with
  | [] => some (.ofList name, [])
  | p :: _ => if p.bare?.any ends then some (.ofList name, rest) else none

def home (user : String) : Evaluator (Option String) := do
  if user.isEmpty then return (← get).get? "HOME" else homeOf? user

def literals (m : Manner) : List Piece → List (Bool × Char) × Manner × List Piece
  | .char isQuoted c :: rest =>
    let isEquals := m.isSetting && !isQuoted && c = '=' && !m.isBehindEquals
    let isMark := isEquals || m.isSetting && !isQuoted && c = ':'
    let m := if isEquals then { m with isBehindEquals := true } else m
    if isMark && (rest.head?.bind Piece.bare?) = some '~' then ([(isQuoted, c)], m, rest)
    else
      let (row, m, rest) := literals m rest
      ((isQuoted, c) :: row, m, rest)
  | pieces => ([], m, pieces)
termination_by structural pieces => pieces

def literalCells (isInBraces : Bool) (row : List (Bool × Char)) : List Cell :=
  if !isInBraces then row.map fun e => .char e.1 e.2
  else
    (row.splitBy fun a b => a.1 = b.1).flatMap fun l =>
      let cells := l.map fun e => Cell.char e.1 e.2
      if l.any (·.1) then cells else Cell.part false cells

abbrev Inner := Manner → Word → Evaluator (List Cell)

def missing {α : Type} (name message : String) : Evaluator α := fail (name ++ ": " ++ message)

def demanded (m : Manner) (isQuoted : Bool) (name : String) (coversEmpty : Bool := false) :
    Evaluator (List Char) := do
  let s ← get
  match (value? s m isQuoted name).filter fun v => !(coversEmpty && v.isEmpty) with
  | some v => return v
  | none => if s.has .nounset then missing name "parameter not set" else return []

def parameter (inner : Inner) (m : Manner) (isQuoted : Bool) (name : String) (use : Use)
    (word : Word) :
    Evaluator (List Cell) := do
  let s ← get
  let value (coversEmpty : Bool) : Option (List Char) :=
    (value? s m isQuoted name).filter fun v => !(coversEmpty && v.isEmpty)
  match use with
  | .unknown => fail "Bad substitution"
  | .plain => return placed s isQuoted name (← demanded m isQuoted name)
  | .filled => return placed s isQuoted name (← demanded m isQuoted name true)
  | .length =>
    return placed s isQuoted "" (toString (← demanded m isQuoted name).length).toList
  | .orElse coversEmpty =>
    match value coversEmpty with
    | some v => return placed s isQuoted name v
    | none => inner { m with isInBraces := true, findsHome := true } word
  | .andThen coversEmpty =>
    match value coversEmpty with
    | some _ => inner { m with isInBraces := true, findsHome := true } word
    | none => return []
  | .orFail coversEmpty =>
    match value coversEmpty with
    | some v => return placed s isQuoted name v
    | none =>
      if word.isEmpty then
        missing name ("parameter not set" ++ if coversEmpty then " or null" else "")
      else missing name (.ofList (Cell.text (← inner {} word)))
  | .orAssign coversEmpty =>
    match value coversEmpty with
    | some v => return placed s isQuoted name v
    | none =>
      assign name (.ofList (Cell.text (← inner {} word)))
      return placed (← get) isQuoted name (← demanded m isQuoted name)
  | .without isAtEnd isLongest =>
    let text ← demanded m isQuoted name
    if (value false).isNone then return placed s isQuoted name text
    let pattern := Cell.letters (← inner {} word)
    return placed s isQuoted name
      (Pattern.trimmed (isMarked isQuoted) isAtEnd isLongest pattern text)

def arithmetic (inner : Inner) (isQuoted : Bool) (expression : Word) : Evaluator (List Cell) := do
  let text := Cell.text (← inner { findsHome := false } expression)
  match Arithmetic.evaluate (← get) text with
  | .ok (i, s) =>
    modify fun _ => s
    return placed s isQuoted "" (toString i).toList
  | .error (.wrong what) =>
    fail ("arithmetic expression: " ++ what ++ ": \"" ++ .ofList text ++ "\"")
  | .error (.variable_ message) => fail message
  | .error .overflow =>
    let _ ← call (.kill (← call .ownId) 8)
    fail "overflow"

def output (capture : Capture) (isQuoted : Bool) (command : Option Command) :
    Evaluator (List Cell) := do
  let text := (← capture command).filter (· ≠ '\x00')
  return placed (← get) isQuoted "" (text.reverse.dropWhile (· = '\n')).reverse

/-- The pieces of a word from some place on; `isAtHome` tells whether a tilde here is a home. -/
def pieces (capture : Capture) (inner : Inner) :
    Nat → Manner → (isAtHome isInQuotes : Bool) → List Piece →
    Evaluator (List Cell)
  | 0, _, _, _, _ | _, _, _, _, [] => return []
  | n + 1, m, isAtHome, isInQuotes, piece :: rest => do
    let onward (cells : List Cell) (isInQuotes : Bool) (rest : List Piece) :
      Evaluator (List Cell) := do
      return cells ++ (← pieces capture inner n m false isInQuotes rest)
    match piece, rest with
    | .quotes, .parameter true "@" .plain [] :: .quotes :: rest' =>
      if isInQuotes then onward [.quotes] false rest
      else onward (← parameter inner m true "@" .plain []) false rest'
    | .quotes, _ => onward [.quotes] (!isInQuotes) rest
    | .parameter isQuoted name use word, _ =>
      onward (← parameter inner m isQuoted name use word) isInQuotes rest
    | .output isQuoted command, _ => onward (← output capture isQuoted command) isInQuotes rest
    | .arithmetic isQuoted expression, _ =>
      onward (← arithmetic inner isQuoted expression) isInQuotes rest
    | .char isQuoted c, _ =>
      let place? ← match if isAtHome &&
        !isQuoted && c = '~' then userAt m.isSetting rest else none with
        | some (user, after) => pure ((← home user).map fun place => (place, after))
        | none => pure none
      match place? with
      | some (place, after) => onward (place.toList.map (.char true)) isInQuotes after
      | none =>
        let (row, m, rest) := literals m (piece :: rest)
        return literalCells m.isInBraces row ++ (← pieces capture inner n m true isInQuotes rest)

def cellsAt (capture : Capture) : Nat → Inner
  | 0, _, _ => return []
  | depth + 1, m, word =>
    pieces capture (cellsAt capture depth) (word.length + 1) m m.findsHome false word

def depth : Nat := 100000

def cells (capture : Capture) (m : Manner) (word : Word) : Evaluator (List Cell) :=
  cellsAt capture depth m word

def text (capture : Capture) (m : Manner) (word : Word) : Evaluator String := do
  return .ofList (Cell.text (← cells capture m word))

def pattern (capture : Capture) (word : Word) : Evaluator (List Letter) := do
  return Cell.letters (← cells capture {} word)

def isMeta (l : Letter) : Bool := !l.isQuoted && (l.char = '*' || l.char = '?' || l.char = '[')

def isClosed (s : List Letter) : Bool :=
  let s := if s.head? = some ⟨false, '!'⟩ then s.tail else s
  (s.drop 1).any fun l => l = ⟨false, ']'⟩

def isPattern : List Letter → Bool
  | [] => false
  | l :: rest =>
    (!l.isQuoted && (l.char = '*' || l.char = '?' || (l.char = '[' && isClosed rest))) ||
      isPattern rest

def segments (path : List Letter) : List (List Letter) := path.splitOnP (·.char = '/')

def plainText (l : List Letter) : String := .ofList (l.map (·.char))

def paths : List (List Letter) → String → Evaluator (List String)
  | [], start => return [start]
  | segment :: rest, start => do
    let slash := if rest.isEmpty then "" else "/"
    if !isPattern segment then
      let path := start ++ plainText segment ++ slash
      if rest.isEmpty then
        match ← call (.status path false) with
        | .ok _ => return [path]
        | .error _ => return []
      else paths rest path
    else
      match ← call (.namesIn (if start.isEmpty then "." else start)) with
      | .error _ => return []
      | .ok names =>
        let isHidden (name : String) : Bool := name.toList.head? = some '.'
        let mayBeHidden := segment.head?.any (·.char = '.')
        let fitting := ([".", ".."] ++ names).filter fun name =>
          (mayBeHidden || !isHidden name) && Pattern.matches_ segment name.toList
        let found ← fitting.mapM fun name =>
          if rest.isEmpty then return [start ++ name] else paths rest (start ++ name ++ slash)
        return found.flatten

def files (field : List Cell) : Evaluator (List String) := do
  let letters := Cell.letters field
  let itself := [plainText letters]
  if (← get).has .noglob || !letters.any isMeta then return itself
  else
    let segments := segments (Pattern.unescaped letters)
    if !segments.any isPattern then return itself
    let found ← paths segments ""
    return if found.isEmpty then itself else found.mergeSort (· ≤ ·)

def fields (capture : Capture) (word : Word) : Evaluator (List String) := do
  let cells ← cells capture .field word
  let separators := (((← get).get? "IFS").map String.toList).getD Splitter.usual
  let found ← (Splitter.fields_ separators none cells).mapM files
  return found.flatten

end Expansion

end Shorthand.Posix
