set_option autoImplicit false

namespace Shorthand.Tool.Quoted

def isVisible (c : Char) : Bool := ' ' ≤ c && c ≤ '~'

def letters : List (Char × Char) :=
  [('\x07', 'a'), ('\x08', 'b'), ('\x0c', 'f'), ('\n', 'n'), ('\x0d', 'r'), ('\t', 't'),
    ('\x0b', 'v')]

def octal (n : Nat) : Char := Char.ofNat (48 + n % 8)

def escape (c : Char) : List Char :=
  match letters.find? (·.1 = c) with
  | some (_, letter) => ['\\', letter]
  | none => ['\\', octal (c.toNat / 64), octal (c.toNat / 8), octal c.toNat]

def plain (s : String) : String :=
  .ofList ('\'' :: s.toList.flatMap (fun c =>
    if c = '\'' || c = '\\' then ['\\', c] else if isVisible c then [c] else escape c) ++ ['\''])

def isSpecial (c : Char) : Bool := "!\"$&()*;<=>?[\\^\x60|".toList.contains c

def isCommon (c : Char) : Bool := isVisible c && !isSpecial c && !"#\x7b\x7d~".toList.contains c

/-- The inside of single quotes; what cannot be seen stands between quotes of its own kind. -/
def inside : (isEscaping : Bool) → List Char → List Char
  | _, [] => []
  | isEscaping, c :: r =>
    if c = '\'' then '\'' :: '\\' :: '\'' :: inside false r
    else if isVisible c then (if isEscaping then ['\'', '\''] else []) ++ c :: inside false r
    else (if isEscaping then [] else ['\'', '$', '\'']) ++ escape c ++ inside true r

def always (s : String) : String :=
  if s.toList.contains '\'' && s.toList.all isCommon then "\"" ++ s ++ "\""
  else .ofList ('\'' :: inside false s.toList ++ ['\''])

/-- Whether a shell would take a bare text apart or for something else; more characters may count as
special. -/
def needsQuotes (more : List Char) (s : String) : Bool :=
  match s.toList with
  | [] => true
  | c :: r =>
    c = '#' || c = '~' || ((c = '\x7b' || c = '\x7d') && r.isEmpty) ||
      (c :: r).any fun d => d = ' ' || d = '\'' || isSpecial d || !isVisible d || more.contains d

def forShell (s : String) : String := if needsQuotes [] s then always s else s

def beforeColon (s : String) : String := if needsQuotes [':'] s then always s else s

end Shorthand.Tool.Quoted
