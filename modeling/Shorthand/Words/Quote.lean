/-!
Words written so that a shell reads them back. A word is cut into chunks, each of them bare, in
single or in double quotes, where `^`, `!` and the backslash are kept out of the quotes in which
some shell would still read them.
-/
set_option autoImplicit false

namespace Shorthand.Words

inductive Style where
  | bare
  | single
  | double
  deriving DecidableEq, Repr

def isBare (c : Char) : Bool :=
  c.isAlphanum || c = '+' ||
    c = '-' || c = '.' || c = '/' || c = ':' || c = '@' || c = ']' || c = '_'

def Style.admits (style : Style) (c : Char) : Bool :=
  match style with
  | .bare => isBare c
  | .single => c ≠ '\'' && c ≠ '^' && c ≠ '\\'
  | .double => c.toNat ≠ 0x60 && c ≠ '$' && c ≠ '!' && c ≠ '^'

def stylesOf (c : Char) : List Style :=
  if c = '^' then [.single] else [.bare, .single, .double].filter (·.admits c)

def Style.write (style : Style) (chunk : List Char) : List Char :=
  match style with
  | .bare => chunk
  | .single => '\'' :: chunk ++ ['\'']
  | .double =>
    '"' :: chunk.flatMap (fun c => if c = '"' || c = '\\' then ['\\', c] else [c]) ++ ['"']

/-- The first of the styles that are left; they are kept in the order of preference. -/
def preferred (styles : List Style) : Style := styles.headD .bare

/-- Writes the chunk read so far, kept backwards, and all that follows. A chunk ends before a
character that no style of it admits. -/
def writeChunks (styles : List Style) (chunk : List Char) : List Char → List Char
  | [] => (preferred styles).write chunk.reverse
  | c :: r =>
    match styles.filter (·.admits c) with
    | [] => (preferred styles).write chunk.reverse ++ writeChunks (stylesOf c) [c] r
    | s :: ss => writeChunks (s :: ss) (c :: chunk) r

def quoted : List Char → List Char
  | [] => ['\'', '\'']
  | c :: r => writeChunks (stylesOf c) [c] r

/-- One word for a shell; a word with U+0000 cannot be written. -/
def quote (word : String) : Option String :=
  if word.toList.contains '\x00' then none else some (.ofList (quoted word.toList))

def join (words : List String) : Option String := (words.mapM quote).map (" ".intercalate ·)

end Shorthand.Words
