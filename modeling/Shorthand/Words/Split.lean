/-!
Words of a shell line: blanks and newlines separate, quotes and backslashes protect, and a `#` where
a word could begin hides the rest of its line. No expansion takes place.
-/
set_option autoImplicit false

namespace Shorthand.Words

inductive Mode where
  | gap
  | comment
  | bare
  | escaped
  | single
  | double
  | doubleEscaped
  deriving DecidableEq, Repr

def isSeparator (c : Char) : Bool := c = ' ' || c = '\t' || c = '\n'

def isEscapable (c : Char) : Bool := c = '$' || c.toNat = 0x60 || c = '"' || c = '\\'

def Mode.opened (c : Char) : Mode :=
  if c = '"' then .double else if c = '\'' then .single else if c = '\\' then .escaped else .bare

def extend (cs : List Char) : List (List Char) → List (List Char)
  | [] => [cs]
  | w :: ws => (cs ++ w) :: ws

/-- The words from here on; in the middle of a word its rest comes first. -/
def read : Mode → List Char → Option (List (List Char))
  | .gap, [] | .comment, [] => some []
  | .bare, [] => some [[]]
  | .escaped, [] | .single, [] | .double, [] | .doubleEscaped, [] => none
  | .gap, c :: r =>
    if isSeparator c then read .gap r
    else if c = '#' then read .comment r
    else if Mode.opened c = .bare then (read .bare r).map (extend [c])
    else read (Mode.opened c) r
  | .comment, c :: r => read (if c = '\n' then .gap else .comment) r
  | .bare, c :: r =>
    if isSeparator c then (read .gap r).map ([] :: ·)
    else if Mode.opened c = .bare then (read .bare r).map (extend [c])
    else read (Mode.opened c) r
  | .escaped, c :: r => (read .bare r).map (extend (if c = '\n' then [] else [c]))
  | .single, c :: r => if c = '\'' then read .bare r else (read .single r).map (extend [c])
  | .double, c :: r =>
    if c = '"' then read .bare r
    else if c = '\\' then read .doubleEscaped r
    else (read .double r).map (extend [c])
  | .doubleEscaped, c :: r =>
    (read .double r).map
      (extend (if isEscapable c then [c] else if c = '\n' then [] else ['\\', c]))

/-- The words of a line, unless a quote stays open or a backslash stands last. -/
def split (line : String) : Option (List String) :=
  (read .gap line.toList).map (·.map String.ofList)

def splitSome (line : String) : Option (List String) := (split line).filter (· ≠ [])

end Shorthand.Words
