import Shorthand.Posix.Scan
/-!
Words and documents read from a script, with all that is replaced in them. What a character means
depends on the region in which it stands: bare text, text in quotes or an arithmetic expression,
each perhaps within the braces of a parameter.
-/
set_option autoImplicit false

namespace Shorthand.Posix

inductive Quoting where
  | bare
  | single
  | double
  | arithmetic
  deriving DecidableEq, Repr

structure Region where
  mode : Quoting
  isQuoted : Bool := false
  braces : Nat := 0
  quotedBraces : Nat := 0
  hasInnerQuotes : Bool := false
  isBraced : Bool := false
  parentheses : Nat := 0
  deriving DecidableEq, Repr

inductive Begun where
  | parameter (isQuoted : Bool) (name : String) (use : Use) (before : List Piece)
  | arithmetic (isQuoted : Bool) (before : List Piece)

structure Draft where
  region : Region
  outer : List Region := []
  begun : List Begun := []
  pieces : List Piece := []
  hasQuotes : Bool := false
  isOver : Bool := false

structure Mark where
  text : List Char
  stripsTabs : Bool

abbrev ListReader := Parser (Option Command)

namespace Draft

def add (d : Draft) (p : Piece) : Draft :=
  if d.isOver then d else { d with pieces := p :: d.pieces }

def begin_ (d : Draft) (piece : List Piece → Begun) : Draft :=
  if d.isOver then d else { d with begun := piece d.pieces :: d.begun, pieces := [] }

def addChar (d : Draft) (c : Char) : Draft := d.add (.char d.region.isQuoted c)

def addQuoted (d : Draft) (c : Char) : Draft := d.add (.char true c)

def enter (d : Draft) (r : Region) : Draft := { d with region := r, outer := d.region :: d.outer }

def leave (d : Draft) : Draft :=
  match d.outer with
  | [] => d
  | r :: rest => { d with region := r, outer := rest }

def complete (d : Draft) : Draft :=
  if d.isOver then d else
  match d.begun with
  | [] => { d with isOver := true }
  | .parameter isQuoted name use before :: rest =>
    { d with begun := rest, pieces := .parameter isQuoted name use d.pieces.reverse :: before }
  | .arithmetic isQuoted before :: rest =>
    { d with begun := rest, pieces := .arithmetic isQuoted d.pieces.reverse :: before }

def closeBrace (d : Draft) : Draft :=
  let r := d.region
  if !r.hasInnerQuotes && r.braces > 0 then
    let d := d.complete
    if r.braces = 1 && r.isBraced then d.leave
    else { d with region := { r with braces := r.braces - 1, quotedBraces := r.quotedBraces - 1 } }
  else d.addChar '\x7d'

def toggleInnerQuotes (r : Region) : Region :=
  if r.braces > 0 then { r with hasInnerQuotes := !r.hasInnerQuotes } else r

def mark (d : Draft) (isDocument : Bool) : Draft := if isDocument then d else d.add .quotes

def openQuotes (d : Draft) (isDocument isDouble : Bool) : Draft :=
  let r := { d.region with mode := if isDouble then .double else .single, isQuoted := true }
  { d with
    region := if isDouble then toggleInnerQuotes r
      else { r with isQuoted := d.region.isQuoted } }.mark isDocument

def closeQuotes (d : Draft) (isDocument isDouble : Bool) : Draft :=
  let r := if d.region.quotedBraces = 0 then { d.region with mode := .bare, isQuoted := false }
    else d.region
  { d with region := if isDouble then toggleInnerQuotes r else r, hasQuotes := true }.mark
    isDocument

end Draft

namespace Parser

def isNameStart (c : Char) : Bool := c.isAlpha || c = '_'
def isNamePart (c : Char) : Bool := c.isAlphanum || c = '_'
def isSpecial (c : Char) : Bool := c.isDigit || "!#$*-?@".toList.contains c

def nextIn (r : Region) : Parser (Option Char) := if r.mode = .single then next else nextJoined

def spanFrom (p : Char → Bool) : Nat → Option Char → List Char → Parser (List Char × Option Char)
  | 0, c, read => return (read.reverse, c)
  | n + 1, c, read =>
    match c.filter p with
    | none => return (read.reverse, c)
    | some c => do spanFrom p n (← nextJoined) (c :: read)

def span (p : Char → Bool) (c : Option Char) : Parser (String × Option Char) := do
  let (read, c) ← spanFrom p patience c []
  return (.ofList read, c)

inductive Form where
  | simple
  | length
  | open_
  deriving DecidableEq

def uncount (c : Char) : Parser Unit := do
  if c = '\n' then modify fun s => { s with line := s.line - 1 }

/-- The name of a parameter from a character on, whether only its length is meant, and the first
character behind it; none if there is no name. -/
def parameterName (inBraces : Bool) (c : Option Char) :
    Parser (Option String × Form × Option Char) := do
  let form := if inBraces then Form.open_ else .simple
  match ← name form c with
  | some (n, c) => return (some n, form, c)
  | none =>
    match c with
    | none | some '\x7d' => return (none, form, c)
    | some s =>
      let c ← nextJoined
      if inBraces && s = '#' then
        if c.any fun c => c.isAlphanum || c = '_' then
          match ← name .length c with
          | some (n, c) => return (some n, .length, c)
          | none => return (none, .open_, c)
        else
          let e ← nextJoined
          if c = some '\x7d' || e ≠ some '\x7d' then
            putBack e
            return (some "#", .open_, c)
          else
            match c.filter isSpecial with
            | some c => return (some (String.singleton c), .length, e)
            | none => return (none, .open_, e)
      else if isSpecial s then return (some (String.singleton s), form, c)
      else
        uncount s
        return (none, form, c)
where
  name (form : Form) (c : Option Char) : Parser (Option (String × Option Char)) :=
    match c with
    | none => return none
    | some d =>
      if isNameStart d then return some (← span isNamePart c)
      else if d.isDigit then
        if form = .simple then return some (String.singleton d, ← nextJoined)
          else return some (← span Char.isDigit c)
      else return none

/-- What is done with a parameter, from the character behind its name on; none if that ends the
parameter. -/
def parameterUse (c : Option Char) : Parser (Option Use) := do
  let (coversEmpty, c) ← if c = some ':' then pure (true, ← nextJoined) else pure (false, c)
  match c with
  | some '\x7d' => return if coversEmpty then some .filled else none
  | some '-' => return some (.orElse coversEmpty)
  | some '+' => return some (.andThen coversEmpty)
  | some '?' => return some (.orFail coversEmpty)
  | some '=' => return some (.orAssign coversEmpty)
  | some t =>
    if coversEmpty || (t ≠ '%' && t ≠ '#') then
      uncount t
      return some .unknown
    else
      let e ← nextJoined
      if e = c then return some (.without (t = '%') true)
      else
        putBack e
        return some (.without (t = '%') false)
  | none => return some .unknown

/-- A parameter whose braces stay open. One that is complete all the same has no pieces: the next
brace closes what was begun before it. -/
def openBraces (d : Draft) (isQuoted : Bool) (name : String) (use : Use) : Draft :=
  let r := d.region
  let mode := match use with
    | .without .. => Quoting.bare
    | _ => if r.mode = .arithmetic then .double else r.mode
  let d := if use = .filled then d.add (.parameter isQuoted name use [])
    else d.begin_ (.parameter isQuoted name use)
  let d := if mode ≠ r.mode || r.hasInnerQuotes then
      d.enter { mode, isQuoted := mode ≠ .bare, isBraced := true }
    else d
  let r := d.region
  { d with region :=
      { r with
        braces := r.braces + 1
        quotedBraces := if r.isQuoted then r.quotedBraces + 1 else r.quotedBraces } }

def parameter (d : Draft) (c : Option Char) : Parser Draft := do
  let isQuoted := d.region.isQuoted
  let inBraces := c = some '\x7b'
  let c ← if inBraces then nextJoined else pure c
  let (name?, form, c) ← parameterName inBraces c
  match name?, form with
  | none, _ =>
    putBack c
    return openBraces d isQuoted "" .unknown
  | some name, .simple =>
    putBack c
    return d.add (.parameter isQuoted name .plain [])
  | some name, .length =>
    putBack c
    return openBraces d isQuoted name (if c = some '\x7d' then .length else .unknown)
  | some name, .open_ =>
    match ← parameterUse c with
    | none => return d.add (.parameter isQuoted name .plain [])
    | some use => return openBraces d isQuoted name use

def newOutput (list : ListReader) (d : Draft) : Parser Draft := do
  let due := (← get).due
  modify fun s => { s with due := [] }
  let command ← list
  if !(← get).last.isOperator ")" then refuse (some (.operator ")"))
  modify fun s => { s with due, isPushed := false }
  return d.add (.output d.region.isQuoted command)

def backquoted (isQuoted : Bool) : Nat → List Char → Parser (List Char)
  | 0, read => return read.reverse
  | n + 1, read => do
    match ← nextJoined with
    | none => fail .openBackquotes
    | some '\x60' => return read.reverse
    | some '\\' =>
      match ← next with
      | none => fail .openBackquotes
      | some c =>
        if c = '\\' || c = '\x60' || c = '$' || (isQuoted && c = '"') then
          backquoted isQuoted n (c :: read)
        else backquoted isQuoted n (c :: '\\' :: read)
    | some c => backquoted isQuoted n (c :: read)

/-- The commands in backquotes. Their text is read again as a script of its own. -/
def oldOutput (list : ListReader) (d : Draft) : Parser Draft := do
  let text ← backquoted d.region.isQuoted patience []
  let s ← get
  set { s with sources := [{ text }], line := 1, due := [] }
  let command ← tryCatch list fun fault => throw { fault with rest := s.remaining.length }
  modify fun t => { t with sources := s.sources, line := s.line, due := s.due, isPushed := false }
  return d.add (.output d.region.isQuoted command)

def substitution (list : ListReader) (d : Draft) : Parser Draft := do
  let c ← nextJoined
  let isNothing :=
    (← get).isMark || !c.any fun c => c = '(' || c = '\x7b' || isNameStart c || isSpecial c
  if isNothing then
    putBack c
    return d.addChar '$'
  else if c = some '(' then
    let c ← nextJoined
    if c = some '(' then
      return (d.begin_ (.arithmetic d.region.isQuoted)).enter { mode := .arithmetic,
                                                                isQuoted := true }
    else
      putBack c
      newOutput list d
  else parameter d c

/-- A character behind a backslash. A line end is not counted here. -/
def escaped (isDocument : Bool) (d : Draft) : Parser Draft := do
  match ← next with
  | none => return d.add (.char true '\\')
  | some c =>
    if c = '\n' then modify fun s => { s with line := s.line - 1 }
    let r := d.region
    let stays := r.isQuoted &&
      c ≠ '\\' && c ≠ '\x60' && c ≠ '$' && (c ≠ '"' || (isDocument && r.braces = 0)) &&
      (c ≠ '\x7d' || r.braces = 0)
    let d := if stays then d.add (.char true '\\') else d
    return { d.add (.char true c) with hasQuotes := true }

def closeParenthesis (d : Draft) : Parser Draft := do
  if d.region.parentheses > 0 then
    return { d.addChar ')' with
      region := { d.region with parentheses := d.region.parentheses - 1 } }
  else
    let c ← nextJoined
    if c = some ')' then return d.complete.leave
    else
      putBack c
      return d.addChar ')'

/-- Whether the line that begins with a character is the mark of a document. If it is not, all stays
as it was. -/
def isAtMark (mark : List Char) (c : Option Char) : Parser Bool := do
  go mark c []
where
  go : List Char → Option Char → List Char → Parser Bool
    | [], c, read =>
      match c with
      | none => do
        modify fun s => { s with line := s.line + 1 }
        return true
      | some '\n' => return true
      | some _ => do
        giveBack c read
        return false
    | m :: mark, c, read =>
      if c = some m then do go mark (← next) (m :: read)
      else do
        giveBack c read
        return false
  giveBack (c : Option Char) (read : List Char) : Parser Unit := do
    if !read.isEmpty then
      putBack c
      read.dropLast.forM fun c => putBack (some c)

def lineStart (mark : Mark) (c : Option Char) : Parser (Option Char) := do
  let c ← if mark.stripsTabs then pure (← spanTabs patience c) else pure c
  if ← isAtMark mark.text c then return none else return c
where
  spanTabs : Nat → Option Char → Parser (Option Char)
    | 0, c => return c
    | n + 1, c => if c = some '\t' then do spanTabs n (← next) else return c

/-- What becomes of a word by one more character; none if the word ends before it. -/
def extended (list : ListReader) (isDocument : Bool) (d : Draft) (c : Char) :
    Parser (Option Draft) := do
  let r := d.region
  match r.mode, c with
  | .single, '\'' =>
    return some (if isDocument && r.braces = 0 then d.addQuoted c
      else d.closeQuotes isDocument false)
  | .single, _ => return some (d.addQuoted c)
  | _, '\\' => return some (← escaped isDocument d)
  | _, '$' => return some (← substitution list d)
  | _, '\x7d' => return some d.closeBrace
  | _, '\x60' =>
    if (← get).isMark then return some (d.addChar c) else return some (← oldOutput list d)
  | .double, '"' =>
    return some (if isDocument && r.braces = 0 then d.addChar c else d.closeQuotes isDocument true)
  | .arithmetic, '(' =>
    return some { d.addChar c with region := { r with parentheses := r.parentheses + 1 } }
  | .arithmetic, ')' => return some (← closeParenthesis d)
  | .bare, '\'' => return some (d.openQuotes isDocument false)
  | .bare, '"' => return some (d.openQuotes isDocument true)
  | .bare, _ =>
    return if r.braces = 0 && "\n<>();&| \t".toList.contains c then none else some (d.addChar c)
  | _, _ => return some (d.addChar c)

def readFrom (list : ListReader) (mark : Option Mark) (isDocument : Bool) :
    Nat → Option Char → Draft → Parser (Draft × Option Char)
  | 0, c, d => return (d, c)
  | n + 1, c, d =>
    match c with
    | none => return (d, none)
    | some char => do
      match ← extended list isDocument d char with
      | none => return (d, c)
      | some d =>
        let c ← nextIn d.region
        let c ← match mark with
          | some mark => if char = '\n' then lineStart mark c else pure c
          | none => pure c
        readFrom list mark isDocument n c d

def finished (isDocument : Bool) (d : Draft) : Parser Word := do
  if d.region.mode = .arithmetic then fail .openArithmetic
  if d.region.mode ≠ .bare && !isDocument then fail .openQuotes
  if d.region.braces ≠ 0 then fail .openBraces
  return d.pieces.reverse

end Parser

end Shorthand.Posix
