set_option autoImplicit false

namespace Shorthand.Posix

/-- What is done with the value of a parameter. Where a use covers empty values, these count as
missing. -/
inductive Use where
  | plain
  | filled
  | length
  | orElse (coversEmpty : Bool)
  | orAssign (coversEmpty : Bool)
  | orFail (coversEmpty : Bool)
  | andThen (coversEmpty : Bool)
  | without (isAtEnd isLongest : Bool)
  | unknown
  deriving DecidableEq, Repr

/-- Where a stream of a command goes to or comes from; the word tells the file or the other
stream. -/
inductive Direction where
  | input
  | output
  /-- Output over a file that is there already, whatever the options say. -/
  | overwrite
  | append
  | inputOutput
  | copyInput
  | copyOutput
  deriving DecidableEq, Repr

mutual

inductive Piece where
  | char (isQuoted : Bool) (c : Char)
  /-- Quotes begin or end. A word with quotes is there even if nothing is in it. -/
  | quotes
  | parameter (isQuoted : Bool) (name : String) (use : Use) (word : List Piece)
  | output (isQuoted : Bool) (command : Option Command)
  | arithmetic (isQuoted : Bool) (expression : List Piece)

inductive Redirection where
  | redirect (descriptor : Nat) (direction : Direction) (word : List Piece)
  | document (descriptor : Nat) (number : Nat)

inductive Command where
  | simple (line : Nat) (settings words : List (List Piece)) (redirections : List Redirection)
  | pipeline (isInBackground : Bool) (commands : List Command)
  | redirected (line : Nat) (body : Command) (redirections : List Redirection)
  | background (line : Nat) (body : Command) (redirections : List Redirection)
  | subshell (line : Nat) (body : Option Command) (redirections : List Redirection)
  | both (first second : Command)
  | either (first second : Command)
  | after (first second : Command)
  | negation (body : Command)
  | branch (condition : Option Command) (yes no : Option Command)
  | loop (isUntil : Bool) (condition body : Option Command)
  | forEach (line : Nat) (name : String) (words : List (List Piece)) (body : Option Command)
  | select (line : Nat) (subject : List Piece) (cases : List (List (List Piece) × Option Command))
  | define (line : Nat) (name : String) (body : Command)

end

abbrev Word := List Piece

instance : Inhabited Piece := ⟨.quotes⟩
instance : Inhabited Command := ⟨.simple 0 [] [] []⟩

def Piece.bare? : Piece → Option Char
  | char false c => some c
  | _ => none

def Piece.isQuoted : Piece → Bool
  | char isQuoted _ => isQuoted
  | quotes => true
  | _ => false

def Word.bare? (w : Word) : Option String := (w.mapM Piece.bare?).map .ofList

def Word.isQuoted (w : Word) : Bool := w.any Piece.isQuoted

end Shorthand.Posix
