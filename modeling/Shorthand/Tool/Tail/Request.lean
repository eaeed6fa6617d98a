import Shorthand.Posix.Integer
import Shorthand.Tool.Sleep
set_option autoImplicit false

namespace Shorthand.Tool

namespace Tail

inductive CountFault where
  | invalid
  | tooLarge
  deriving DecidableEq, Repr

def CountFault.detail : CountFault → String
  | invalid => ""
  | tooLarge => ": Value too large for defined data type"

def powers : List (Char × Nat) :=
  [('k', 1), ('K', 1), ('m', 2), ('M', 2), ('G', 3), ('T', 4), ('P', 5), ('E', 6),
    ('Z', 7), ('Y', 8)]

def factor? : List Char → Option Nat
  | [] => some 1
  | ['b'] => some 512
  | c :: r =>
    match (powers.find? (·.1 = c)).map (·.2), r with
    | some n, [] | some n, ['i', 'B'] => some (Nat.pow 1024 n)
    | some n, ['B'] | some n, ['D'] => some (Nat.pow 1000 n)
    | _, _ => none

def limit : Nat := Nat.pow 2 64

def count (s : String) : Except CountFault Nat :=
  let s := s.toList.dropWhile Posix.isBlank
  let (isNegative, t) := Posix.takeSign s
  let digits := t.takeWhile Char.isDigit
  if isNegative then .error .invalid
  else
    let unit := if digits.isEmpty then s else t.drop digits.length
    if digits.isEmpty && s.isEmpty then .error .invalid
    else
      match factor? unit with
      | none => .error .invalid
      | some f =>
        let n := (if digits.isEmpty then 1 else Posix.decimal digits) * f
        if n < limit then .ok n else .error .tooLarge

inductive Following where
  | descriptor
  | name
  deriving DecidableEq, Repr

structure Request where
  count : Nat := 10
  inBytes : Bool := false
  /-- Whether the count starts at the front: the part from the item of that number on. -/
  isFromStart : Bool := false
  follows? : Option Following := none
  /-- Whether files that cannot be opened are tried again. -/
  retries : Bool := false
  /-- Whether names are shown: always, never, or for several files. -/
  headers : Option Bool := none
  /-- A process that the tool does not outlive. -/
  companion? : Option Nat := none
  /-- How long to wait between two looks at files whose changes are not told. -/
  interval : Sleep.Duration := .microseconds 1000000
  /-- Whether no changes are told. -/
  isPolling : Bool := false
  separator : Char := '\n'
  paths : List String := []
  deriving DecidableEq, Repr

structure Refusal where
  message : String
  hasHint : Bool := false
  deriving DecidableEq, Repr

def options : Options :=
  { letters := [('c', .word), ('n', .word), ('f', .nothing), ('F', .nothing), ('q', .nothing),
      ('s', .word), ('v', .nothing),
      ('z', .nothing)] ++ "0123456789".toList.map fun c => (c, .nothing)
    names :=
      [("bytes", .word), ("follow", .perhaps), ("lines", .word), ("max-unchanged-stats", .word),
      ("-disable-inotify", .nothing), ("pid", .word), ("-presume-input-pipe", .nothing),
      ("quiet", .nothing), ("retry", .nothing), ("silent", .nothing), ("sleep-interval", .word),
      ("verbose", .nothing), ("zero-terminated", .nothing)] }

def countOr (what : String) (s : String) : Except Refusal Nat :=
  (count s).mapError fun fault => { message := what ++ ": " ++ Quoted.plain s ++ fault.detail }

def withCount (r : Request) (inBytes : Bool) (word : String) : Except Refusal Request := do
  let isFromStart := r.isFromStart || word.startsWith "+"
  let s := if word.startsWith "-" then String.ofList word.toList.tail else word
  let n ← countOr ("invalid number of " ++ if inBytes then "bytes" else "lines") s
  return { r with count := n, inBytes, isFromStart }

def following (word? : Option String) : Except Refusal Following :=
  match word? with
  | none => .ok .descriptor
  | some word =>
    let kinds := [("descriptor", Following.descriptor), ("name", Following.name)]
    match kinds.filter fun e => word.toList.isPrefixOf e.1.toList with
    | [(_, f)] => .ok f
    | l => .error {
        message :=
          (if l.isEmpty then "invalid" else "ambiguous") ++ " argument " ++ Quoted.plain word ++
          " for '--follow'\nValid arguments are:\n  - 'descriptor'\n  - 'name'"
        hasHint := true }

def plainCount (what word : String) : Except Refusal Nat :=
  if word.toList.all Char.isDigit then countOr what word
  else .error { message := what ++ ": " ++ Quoted.plain word }

def interval? (word : String) : Option Sleep.Duration :=
  let n := FloatText.read .double word.toList
  if n.isMissing || !n.rest.isEmpty then none else Sleep.Duration.ofNumber? 1 n.value

def processLimit : Nat := 2147483647

def companion (word : String) : Except Refusal (Option Nat) := do
  let n ← plainCount "invalid PID" word
  if processLimit < n then
    throw { message := "invalid PID: " ++ Quoted.plain word ++ CountFault.tooLarge.detail }
  return if n = 0 then none else some n

def withOption (r : Request) (name : String) (word? : Option String) : Except Refusal Request := do
  let word := word?.getD ""
  if name = "c" || name = "bytes" then withCount r true word
  else if name = "n" || name = "lines" then withCount r false word
  else if name = "f" || name = "follow" then return { r with follows? := some (← following word?) }
  else if name = "F" then return { r with follows? := some .name, retries := true }
  else if name = "retry" then return { r with retries := true }
  else if name = "q" || name = "quiet" || name = "silent" then
    return { r with headers := some false }
  else if name = "v" || name = "verbose" then return { r with headers := some true }
  else if name = "z" || name = "zero-terminated" then return { r with separator := '\x00' }
  else if name = "pid" then return { r with companion? := ← companion word }
  else if name = "-disable-inotify" then return { r with isPolling := true }
  else if name = "max-unchanged-stats" then
    let _ ← plainCount "invalid maximum number of unchanged stats between opens" word
    return r
  else if name = "s" || name = "sleep-interval" then
    match interval? word with
    | some interval => return { r with interval }
    | none => throw { message := "invalid number of seconds: " ++ Quoted.plain word }
  else if name.toList.all Char.isDigit then
    throw { message := "option used in invalid context -- " ++ name }
  else return r

def ofItems : Request → List Item → Except Refusal Request
  | r, [] => .ok r
  | r, .option name word? :: rest => do ofItems (← withOption r name word?) rest
  | r, .operand word :: rest => ofItems { r with paths := r.paths ++ [word] } rest
  | _, .fault message :: _ => .error { message, hasHint := true }

def short? (words : List String) : Option (Except Refusal Request) :=
  let hasShape := match words with
    | [_] | [_, "--"] | [_, "--", _] => true
    | [_, path] => !path.startsWith "-" || path = "-"
    | _ => false
  if !hasShape then none
  else
    let word := words.headD ""
    match word.toList with
    | sign :: r =>
      let digits := r.takeWhile Char.isDigit
      let rest := r.drop digits.length
      let unit? := rest.head?.filter fun c => c = 'b' || c = 'c' || c = 'l'
      let rest := if unit?.isSome then rest.tail else rest
      let isKnown := sign = '+' || (sign = '-' && !r.isEmpty && r ≠ ['c'])
      if !isKnown || !(rest.isEmpty || rest = ['f']) then none
      else
        let n := Posix.decimal digits
        let count := if digits.isEmpty then 10 else n
        let count := if unit? = some 'b' then count * 512 else count
        let paths := words.tail
        let request : Request :=
          { count
            inBytes := unit? = some 'b' || unit? = some 'c'
            isFromStart := sign = '+'
            follows? := if rest.isEmpty then none else some .descriptor
            paths := if paths.head? = some "--" then paths.tail else paths }
        if limit ≤ n then
          some (.error
            { message :=
                "invalid number: " ++ Quoted.plain word ++ ": Numerical result out of range" })
        else if limit ≤ count then
          some (.error { message := "invalid number: " ++ Quoted.plain word })
        else some (.ok request)
    | [] => none

def ofWords (isStrict : Bool) (words : List String) : Except Refusal Request :=
  (short? words).getD (ofItems {} (options.read isStrict words))

def pieces (separator : Char) : List Char → List (List Char)
  | [] => []
  | c :: r =>
    if c = separator then [c] :: pieces separator r
    else
      match pieces separator r with
      | [] => [[c]]
      | l :: ls => (c :: l) :: ls

def cut {α : Type} (r : Request) (items : List α) : List α :=
  if r.isFromStart then items.drop (r.count - 1) else items.drop (items.length - r.count)

def part (r : Request) (text : List Char) : List Char :=
  if r.inBytes then cut r text else (cut r (pieces r.separator text)).flatten

end Tail

end Shorthand.Tool
