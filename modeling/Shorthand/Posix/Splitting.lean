import Shorthand.Posix.Pattern
set_option autoImplicit false

namespace Shorthand.Posix

inductive Cell where
  | char (isQuoted : Bool) (c : Char)
  /-- Quotes begin or end: what is between them is a field even if it is empty. -/
  | quotes
  /-- A part that is split begins; perhaps only at U+0000, which stands between parameters. -/
  | opens (isStrict : Bool)
  | closes
  deriving DecidableEq, Repr

namespace Cell

def letter? : Cell → Option Letter
  | char isQuoted c => some ⟨isQuoted, c⟩
  | _ => none

def letters (cells : List Cell) : List Letter := cells.filterMap letter?

def text (cells : List Cell) : List Char := (letters cells).map (·.char)

def part (isStrict : Bool) (cells : List Cell) : List Cell := .opens isStrict :: cells ++ [.closes]

end Cell

structure Splitter where
  fields : List (List Cell) := []
  field : List Cell := []
  left : Option Nat
  kept : Option Nat := none
  isInPart : Bool := false
  isStrict : Bool := false
  isAfterStrict : Bool := false
  isAfterBlank : Bool := false

namespace Splitter

def usual : List Char := [' ', '\t', '\n']

def add (s : Splitter) (c : Cell) : Splitter := { s with field := c :: s.field }

def cut (s : Splitter) : Splitter := { s with fields := s.field.reverse :: s.fields, field := [] }

def step (separators : List Char) (s : Splitter) (isQuoted : Bool) (c : Char) : Splitter :=
  let cell := Cell.char isQuoted c
  let separates := c = '\x00' || (!s.isStrict && separators.contains c)
  let isBlank := separates && (c = '\x00' || usual.contains c)
  if s.left = some 0 then
    let kept := if isBlank then some (s.kept.getD s.field.length)
      else if separates && s.isAfterBlank then s.kept else none
    { s.add cell with kept, isAfterBlank := if isBlank then s.isAfterBlank else false }
  else if s.isAfterBlank && isBlank then { s with field := [] }
  else if s.isAfterBlank && separates then { s with field := [], isAfterBlank := false }
  else
    let s := if s.isAfterBlank then { s with field := [] } else s
    if separates then
      let isAfterBlank := if s.isAfterStrict || s.isStrict then false else isBlank
      let s := { s with isAfterBlank }
      if s.field.isEmpty && isAfterBlank then { s with isAfterBlank := false }
      else
        match s.left with
        | some 1 =>
          { { s with left := some 0, kept := some s.field.length }.add cell with isAfterBlank }
        | left => { s with left := left.map (· - 1) }.cut
    else { s.add cell with isAfterBlank := false }

def next (separators : List Char) (s : Splitter) : Cell → Splitter
  | .opens isStrict =>
    { s with isInPart := true, isStrict, isAfterStrict := s.isStrict, isAfterBlank := false }
  | .closes => { s with isInPart := false }
  | .char isQuoted c =>
    if s.isInPart then s.step separators isQuoted c else s.add (.char isQuoted c)
  | .quotes => s.add .quotes

def fields_ (separators : List Char) (limit : Option Nat) (cells : List Cell) : List (List Cell) :=
  let s := cells.foldl (next separators) { left := limit }
  let field := s.field.reverse
  let field := if s.isStrict then field else (s.kept.elim field field.take)
  (if field.isEmpty && !s.isStrict then s.fields else field :: s.fields).reverse

end Splitter

end Shorthand.Posix
