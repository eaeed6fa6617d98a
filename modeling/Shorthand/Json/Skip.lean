import Shorthand.Json.Reader
/-!
Passing over JSON values that nobody keeps. They may nest to any depth, their numbers may have any
size, and the escapes in their strings need only the right shape.
-/
set_option autoImplicit false

namespace Shorthand.Json

abbrev Skipper := List Char → Except Stop (List Char)

def skipEscape : Skipper
  | [] => .error (here .endInString [])
  | 'u' :: r => (hex4 r).map (·.2)
  | c :: r => if (shortEscape? c).isSome then .ok r else .error (at1 .badEscape (c :: r))

/-- To behind the closing quote of a string. A step of the count is a character or an escape. -/
def skipString : Nat → Skipper
  | 0, s => .error (here .endInString s)
  | _ + 1, [] => .error (here .endInString [])
  | n + 1, c :: r =>
    if c = '"' then .ok r
    else if c = '\\' then do skipString n (← skipEscape r)
    else if isControl c then .error (here .controlCharacter (c :: r))
    else skipString n r

def skipStringAfterQuote : Skipper := fun s => skipString (s.length + 1) s

def skipDigits : Skipper
  | [] => .error (here .badNumber [])
  | c :: r => if c.isDigit then .ok (r.dropWhile Char.isDigit) else .error (at1 .badNumber (c :: r))

def skipExponent : Skipper
  | '+' :: r | '-' :: r => skipDigits r
  | s => skipDigits s

def skipExponentOrEnd : Skipper
  | [] => .ok []
  | c :: r => if isExponentMark c then skipExponent r else .ok (c :: r)

def skipNumberTail : Skipper
  | '.' :: r => do skipExponentOrEnd (← skipDigits r)
  | s => skipExponentOrEnd s

def skipNumber : Skipper
  | '0' :: r =>
    match r with
    | d :: _ => if d.isDigit then .error (at1 .badNumber r) else skipNumberTail r
    | [] => .ok []
  | s => do skipNumberTail (← skipDigits s)

def nextSkippedItem (isFirst : Bool) (s : List Char) : Except Stop Next :=
  match skipSpace s with
  | [] => .error (here .endInList [])
  | c :: r =>
    if c = ']' then .ok (.closed r)
    else if isFirst then .ok (.item (c :: r))
    else if c = ',' then .ok (.item r)
    else .error (at1 .noListComma (c :: r))

def nextSkippedKey (isFirst : Bool) (s : List Char) : Except Stop Next :=
  match skipSpace s with
  | [] => .error (here .endInObject [])
  | c :: r =>
    if c = '\x7d' then .ok (.closed r)
    else if isFirst then keyQuote c r
    else if c ≠ ',' then .error (at1 .noObjectComma (c :: r))
    else
      match skipSpace r with
      | [] => .error (here .endInObject [])
      | d :: r => keyQuote d r

def skipItems (item : Skipper) : Nat → Bool → Skipper
  | 0, _, s => .error (here .endInList s)
  | n + 1, isFirst, s => do
    match ← nextSkippedItem isFirst s with
    | .closed r => .ok r
    | .item s => skipItems item n false (← item s)

/-- To behind the brace of an object. A step of the count is an entry. -/
def skipEntries (item : Skipper) : Nat → Bool → Skipper
  | 0, _, s => .error (here .endInObject s)
  | n + 1, isFirst, s => do
    match ← nextSkippedKey isFirst s with
    | .closed r => .ok r
    | .item s =>
      let s ← skipStringAfterQuote s
      let s ← item (← afterColon s)
      skipEntries item n false s

/-- Past one value; the count bounds how deep lists and objects stand in one another. -/
def skipDeep : Nat → Skipper
  | 0, s => .error (here .tooDeep s)
  | depth + 1, s =>
    match skipSpace s with
    | [] => .error (here .endInValue [])
    | c :: r =>
      if c = '"' then skipStringAfterQuote r
      else if c = '[' then skipItems (skipDeep depth) (r.length + 1) true r
      else if c = '\x7b' then skipEntries (skipDeep depth) (r.length + 1) true r
      else if c = 'n' then (literal () ['u', 'l', 'l'] r).map (·.2)
      else if c = 't' then (literal () ['r', 'u', 'e'] r).map (·.2)
      else if c = 'f' then (literal () ['a', 'l', 's', 'e'] r).map (·.2)
      else if c = '-' then skipNumber r
      else if c.isDigit then skipNumber (c :: r)
      else .error (at1 .noValue (c :: r))

/-- Past one value. A text cannot nest deeper than it is long. -/
def skipValue : Skipper := fun s => skipDeep (s.length + 1) s

end Shorthand.Json
