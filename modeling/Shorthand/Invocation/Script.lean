import Shorthand.Invocation.Fault
import Shorthand.Shell.Kind
import Shorthand.Text.Blank
import Shorthand.Words.Quote
set_option autoImplicit false

namespace Shorthand.Script

/-- The characters, white space apart, that a word for cmd holds only in quotes. -/
def cmdSpecials : List Char := ['&', '|', '<', '>', '^', '(', ')', '"', '%', '!']

/-- The characters, white space apart, that a word for PowerShell holds only in quotes. -/
def pwshSpecials : List Char :=
  ['$', '\x60', ';', '&', '|', '(', ')', '\x7b', '\x7d', '@', ',', '\'', '"', '<', '>', '#']

def needsQuotes (specials : List Char) (word : List Char) : Bool :=
  word.isEmpty || word.any fun c => Text.isBlank c || specials.contains c

def quoteCmd (word : List Char) : List Char :=
  if needsQuotes cmdSpecials word then
    '"' :: word.flatMap (fun c => if c = '"' then ['\\', '"'] else [c]) ++ ['"']
  else word

def quotePwsh (word : List Char) : List Char :=
  if needsQuotes pwshSpecials word then
    '\'' :: word.flatMap (fun c => if c = '\'' then ['\'', '\''] else [c]) ++ ['\'']
  else word

def spaced (words : List (List Char)) : List Char := [' '].intercalate words

def linePwsh (words : List (List Char)) : List Char :=
  let line := spaced (words.map quotePwsh)
  if line.head? = some '\'' then '&' :: ' ' :: line else line

def line (shell : Shell) (words : List String) : Except RunError String :=
  if words.any fun w => w.toList.contains '\x00' then .error .nulInCommand
  else
    match shell with
    | .cmd => .ok (.ofList (spaced (words.map fun w => quoteCmd w.toList)))
    | .pwsh => .ok (.ofList (linePwsh (words.map String.toList)))
    | .linux | .unknown => (Words.join words).elim (.error .nulInCommand) .ok

/-- The program that reads scripts of a shell, with its first arguments. -/
def interpreter : Shell → String × List String
  | .pwsh => ("pwsh", ["-NoProfile", "-Command"])
  | .cmd => ("cmd", ["/C"])
  | .linux | .unknown => ("sh", ["-c"])

end Shorthand.Script
