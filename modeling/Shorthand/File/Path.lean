import Shorthand.Shell.Detection
import Shorthand.Text.Alphanumeric
import Shorthand.Text.Cut
set_option autoImplicit false

namespace Shorthand.Path

def isAbsolute (path : String) : Bool := Text.startsWith '/' path

/-- A path taken from a directory; an absolute path stays as it is. -/
def join (directory path : String) : String :=
  if isAbsolute path then path
  else if directory.isEmpty || directory.toList.getLast? = some '/' then directory ++ path
  else directory ++ "/" ++ path

def home? (env : Environment) (account : Option String) : Option String :=
  ((env.get? "HOME").filter (!·.isEmpty)).or account

def isNameChar (c : Char) : Bool := Text.isAlphanumeric c || c = '_'

/-- A name with the default behind it, from a text in braces; without a name there is no default. -/
def splitDefault (s : List Char) : List Char × Option (List Char) :=
  match s with
  | [] => ([], none)
  | ':' :: '-' :: _ => (s, none)
  | c :: r => go [c] r
where
  go (name : List Char) : List Char → List Char × Option (List Char)
    | [] => (name.reverse, none)
    | ':' :: '-' :: default => (name.reverse, some default)
    | c :: r => go (c :: name) r

/-- The value of a variable: what stands behind the name and an equals sign in the environment. The
name may have equals signs of its own, which then belong to the value of a variable with a shorter
name. -/
def valueOf (env : Environment) (name : List Char) : Option (List Char) :=
  match Text.cutChars '=' name with
  | none => (env.get? (.ofList name)).map String.toList
  | some (key, r) =>
    let start := r ++ ['=']
    ((env.get? (.ofList key)).filter fun value => start.isPrefixOf value.toList).map fun value =>
      value.toList.drop start.length

theorem length_of_cutChars {c : Char} {s a b : List Char} (h : Text.cutChars c s = some (a, b)) :
    b.length < s.length := by
  rw [(Text.eq_of_cutChars h).1]; simp; omega

/-- A path with the values of its variables; none if one of them has no value. `$$` is a dollar
sign, and so is a dollar sign before which no name begins. -/
def expandVariables (env : Environment) : List Char → Option (List Char)
  | [] => some []
  | '$' :: '\x7b' :: r =>
    match _h : Text.cutChars '\x7d' r with
    | none => (expandVariables env r).map fun t => '$' :: '\x7b' :: t
    | some (inner, rest) => do
      let (name, default) := splitDefault inner
      let value ← (valueOf env name).or default
      (expandVariables env rest).map (value ++ ·)
  | '$' :: '$' :: r => (expandVariables env r).map ('$' :: ·)
  | '$' :: r =>
    let name := r.takeWhile isNameChar
    if name.isEmpty then (expandVariables env r).map ('$' :: ·)
    else do
      let value ← valueOf env name
      (expandVariables env (r.drop name.length)).map (value ++ ·)
  | c :: r => (expandVariables env r).map (c :: ·)
  termination_by s => s.length
  decreasing_by
    · simp only [List.length_cons]; omega
    · have := length_of_cutChars _h
      simp only [List.length_cons]; omega
    · simp only [List.length_cons]; omega
    · simp only [List.length_cons]; omega
    · simp only [List.length_cons, List.length_drop]; omega
    · simp only [List.length_cons]; omega

/-- The home directory in the place of a tilde that stands alone or before a slash; without one it
stays. -/
def expandHome (env : Environment) (account : Option String) (path : List Char) : List Char :=
  match path, home? env account with
  | '~' :: r, some home => if r.isEmpty || r.head? = some '/' then home.toList ++ r else path
  | _, _ => path

/-- A path as a user writes it; a tilde that comes from a variable stays. -/
def expand (env : Environment) (account : Option String) (path : String) : Option String :=
  (expandVariables env path.toList).map fun s =>
    .ofList (if Text.startsWith '~' path then expandHome env account s else s)

end Shorthand.Path
