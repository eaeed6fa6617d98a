import Shorthand.Text.Blank
import Shorthand.Text.Cut
import Shorthand.Words.Split
/-!
Fragments that do nothing but set one environment variable, in the manner of PowerShell, of cmd or
of a POSIX shell.
-/
set_option autoImplicit false

namespace Shorthand.Assignment

open Text (isBlank dropBlank dropBlankEnd cutChars)

def isNameStart (c : Char) : Bool := c.isAlpha || c = '_'

def isNameChar (c : Char) : Bool := c.isAlphanum || c = '_'

def isName : List Char → Bool
  | [] => false
  | c :: r => isNameStart c && r.all isNameChar

def takeName? (s : List Char) : Option (List Char × List Char) :=
  let name := s.takeWhile isNameChar
  if isName name then some (name, s.dropWhile isNameChar) else none

def expect (c : Char) : List Char → Option (List Char)
  | [] => none
  | d :: r => if d = c then some r else none

/-- A value that stands between two quotes of one kind, without them. -/
def unquoteWith (quote : Char) (s : List Char) : Option (List Char) := do
  let r ← expect quote s
  let back ← expect quote r.reverse
  some back.reverse

def unquote (s : List Char) : List Char :=
  ((unquoteWith '\'' s).or (unquoteWith '"' s)).getD s

def dropSemicolon (s : List Char) : List Char :=
  if s.getLast? = some ';' then s.dropLast else s

/-- `$env:NAME = value;` on one line; the value may stand in quotes. -/
def pwsh? (s : List Char) : Option (List Char × List Char) := do
  let dollar := "$env:".toList
  if !dollar.isPrefixOf s then none
  let (name, r) ← takeName? (s.drop dollar.length)
  let r ← expect '=' (dropBlank r)
  let value := dropBlankEnd (dropSemicolon (dropBlankEnd (dropBlank r)))
  if value.contains '\n' then none else some (name, unquote value)

def isSet : List Char → Bool
  | [s, e, t] => (s = 's' || s = 'S' || s = 'ſ') && (e = 'e' || e = 'E') && (t = 't' || t = 'T')
  | _ => false

/-- A text without the character at its start, if it is there. -/
def dropOne (c : Char) : List Char → List Char
  | [] => []
  | d :: r => if d = c then r else d :: r

def cmd? (s : List Char) : Option (List Char × List Char) := do
  if !isSet (s.take 3) then none
  let r := s.drop 3
  if !(r.head?.any isBlank) then none
  let (name, r) ← takeName? (dropOne '"' (dropBlank r))
  let r ← expect '=' r
  let isPlain (c : Char) : Bool := c ≠ '"' && c ≠ '&'
  let value := r.takeWhile isPlain
  let tail := dropBlank (dropOne '"' (r.dropWhile isPlain))
  if (dropBlank (dropOne '&' (dropOne '&' tail))).isEmpty then
    some (name, dropBlankEnd value) else none

def posix? (s : String) : Option (List Char × List Char) :=
  match Words.split s with
  | some [word] => (cutChars '=' word.toList).filter fun p => isName p.1
  | _ => none

/-- The variable that a fragment sets, if it does nothing else. -/
def ofFragment? (fragment : String) : Option (String × String) :=
  let fragment := Text.trim fragment
  let s := fragment.toList
  ((pwsh? s).or ((cmd? s).or (posix? fragment))).map fun p => (.ofList p.1, .ofList p.2)

end Shorthand.Assignment
