import Shorthand.Config.Basic
set_option autoImplicit false

namespace Shorthand

inductive FlagKind where
  | expandable
  | contextAware
  | environment
  | internal
  deriving DecidableEq, Repr

def FlagKind.word : FlagKind → String
  | expandable => "expandable-flags"
  | contextAware => "context-aware-flags"
  | environment => "env-setting-flags"
  | internal => "internal-flags"

def Config.flagsOf (c : Config) : FlagKind → SortedMap FlagEntry
  | .expandable => c.expandableFlags
  | .contextAware => c.contextFlags
  | .environment => c.environmentFlags
  | .internal => c.internalFlags

def FlagKind.position : FlagKind → Position
  | environment => .start
  | _ => .finish

end Shorthand
