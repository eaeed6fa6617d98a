import Shorthand.Text.Cut
set_option autoImplicit false

namespace Shorthand

structure FlagToken where
  key : String
  value : Option String
  /-- One dash with a key of several characters, each of which may be a flag of its own. -/
  isBundle : Bool
  deriving DecidableEq, Repr

/-- The key and the value of a word without its dashes. -/
def FlagToken.ofBody? (isShort : Bool) (body : String) : Option FlagToken :=
  let (key, value) := match Text.cut '=' body with
    | some (key, value) => (key, some value)
    | none => (body, none)
  if key.isEmpty then none else some ⟨key, value, isShort && 1 < key.length⟩

def FlagToken.ofWord? (word : String) : Option FlagToken :=
  match Text.dropStart? "--" word with
  | some body => ofBody? false body
  | none => (Text.dropStart? "-" word).bind (ofBody? true)

/-- The word behind which nothing is read as a flag. -/
def separator : String := "--"

def splitAtSeparator (words : List String) : List String × List String :=
  (words.takeWhile (· ≠ separator), (words.dropWhile (· ≠ separator)).drop 1)

end Shorthand
