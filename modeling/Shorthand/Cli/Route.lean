import Shorthand.Alias
set_option autoImplicit false

namespace Shorthand

inductive Builtin where
  | help
  | validate
  | many (coverage : Coverage)
  deriving DecidableEq, Repr

namespace Builtin

def word : Builtin → String
  | help => "help"
  | validate => "validate"
  | many coverage => coverage.word

def words : Builtin → List String
  | help => ["help", "h"]
  | b => [b.word]

def all : List Builtin := [help, validate, many .ext, many .core, many .all]

def ofWord? (s : String) : Option Builtin := all.find? fun b => b.words.contains s

def toleratesProblems : Builtin → Bool
  | help | validate => true
  | many _ => false

end Builtin

inductive Route where
  | builtin (b : Builtin)
  | command
  | aliased
  | unknown
  deriving DecidableEq, Repr

/-- Builtins come first, then the commands of the configuration, then aliases. -/
def Config.route (c : Config) (word : String) : Route :=
  match Builtin.ofWord? word with
  | some b => .builtin b
  | none =>
    if c.commands.contains word then .command
    else if c.hasAlias word then .aliased
    else .unknown

end Shorthand
