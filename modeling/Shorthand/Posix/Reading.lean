import Shorthand.Posix.Options
import Shorthand.Posix.Splitting
set_option autoImplicit false

namespace Shorthand.Posix

namespace Reading

open Evaluator

structure Line where
  cells : List Cell := []
  isAtEnd : Bool := false

/-- The input up to the end of a line. A backslash quotes what follows it unless it is raw. -/
def lineFor (isRaw : Bool) : Nat → (isEscaped : Bool) → List Cell → Evaluator Line
  | 0, _, cells => return { cells }
  | n + 1, isEscaped, cells => do
    match ← call (.read 0 1) with
    | .ok [c] =>
      if c = '\x00' then lineFor isRaw n isEscaped cells
      else if isEscaped then
        if c = '\n' then lineFor isRaw n false (.opens false :: .closes :: cells)
        else lineFor isRaw n false (.opens false :: .char true c :: .closes :: cells)
      else if c = '\\' && !isRaw then lineFor isRaw n true cells
      else if c = '\n' then return { cells }
      else lineFor isRaw n false (.char false c :: cells)
    | .error .interrupted =>
      collect
      if (← get).pending.isEmpty then lineFor isRaw n isEscaped cells
        else return { cells, isAtEnd := true }
    | _ => return { cells, isAtEnd := true }

/-- Variables set to the fields of a line; those for which nothing is left become empty. -/
def spread : List String → List (List Cell) → Evaluator Unit
  | [], _ => pure ()
  | name :: names, fields => do
    assign name (.ofList (Cell.text (fields.headD [])))
    spread names fields.tail

def read (args : List String) : Evaluator Nat := do
  let given ← Given.read "r" args "p"
  let names := given.rest
  if names.isEmpty then fail "arg count"
  let line ← lineFor (given.has 'r') Parser.patience false [.opens false]
  let cells := (Cell.closes :: line.cells).reverse
  let separators := (((← get).get? "IFS").map String.toList).getD Splitter.usual
  spread names (Splitter.fields_ separators (some names.length) cells)
  return if line.isAtEnd then 1 else 0

structure Option_ where
  letter : Char
  /-- The word of the option; none if there is to be none. -/
  word : Option String
  complaint : String := ""
  cursor : OptionCursor
  isDone : Bool := false

def behind? (c : Char) : List Char → Option (List Char)
  | [] => none
  | d :: ':' :: r => if d = c then some (':' :: r) else behind? c r
  | d :: r => if d = c then some r else behind? c r

def nextOption (letters : List Char) (words : List String) (cursor : OptionCursor) : Option_ :=
  let current := words[cursor.index - 2]?
  let inWord : Option (List Char) :=
    if cursor.index ≤ 1 then none
    else
      match cursor.offset, current with
      | some n, some word => (some (word.toList.drop n)).filter (!·.isEmpty)
      | _, _ => none
  let start : Option (List Char × Nat) :=
    match inWord with
    | some s => some (s, cursor.index)
    | none =>
      match (words[cursor.index - 1]?).map String.toList with
      | some ('-' :: c :: r) => some (c :: r, cursor.index + 1)
      | _ => none
  match start with
  | none => { letter := '?', word := none, cursor := { index := cursor.index }, isDone := true }
  | some (s, index) =>
    if s = ['-'] && inWord.isNone then
      { letter := '?', word := none, cursor := { index }, isDone := true }
    else
      let c := s.headD '?'
      let rest := s.tail
      let length := ((words[index - 2]?).getD "").length
      let within : OptionCursor := { index, offset := some (length - rest.length) }
      let isQuiet := letters.head? = some ':'
      match behind? c letters with
      | none =>
        if isQuiet then { letter := '?', word := some (String.singleton c), cursor := within }
        else
          { letter := '?', word := none,
            complaint := "Illegal option -" ++ String.singleton c ++ "\n", cursor := within }
      | some (':' :: _) =>
        if !rest.isEmpty then { letter := c, word := some (.ofList rest), cursor := { index } }
        else
          match words[index - 1]? with
          | some word => { letter := c, word := some word, cursor := { index := index + 1 } }
          | none =>
            if isQuiet then
              { letter := ':', word := some (String.singleton c), cursor := { index } }
            else
              { letter := '?', word := none,
                complaint := "No arg for -" ++ String.singleton c ++ " option\n"
                cursor := { index } }
      | some _ => { letter := c, word := some "", cursor := within }

def getopts (args : List String) : Evaluator Nat := do
  match args with
  | letters :: name :: words =>
    let s ← get
    let words := if words.isEmpty then s.parameters else words
    let cursor : OptionCursor := if words.length + 1 < s.cursor.index then {} else s.cursor
    let found := nextOption letters.toList words cursor
    if !found.complaint.isEmpty then
      let _ ← write 2 found.complaint.toList
    if !found.isDone then change (·.put "OPTARG" found.word)
    change (·.put "OPTIND" (some (toString found.cursor.index)))
    modify fun s => { s with cursor := found.cursor }
    modify fun s => { s with cursor := {} }
    assign name (String.singleton found.letter)
    modify fun s => { s with cursor := found.cursor }
    return if found.isDone then 1 else 0
  | _ => fail "Usage: getopts optstring var [arg...]"

end Reading

end Shorthand.Posix
