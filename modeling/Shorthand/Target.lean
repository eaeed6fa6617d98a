import Shorthand.Config.Basic
set_option autoImplicit false

namespace Shorthand

inductive Tier where
  | feature
  | nx
  | external
  | unknown
  deriving DecidableEq, Repr

def Tier.word : Tier → String
  | feature => "feature"
  | nx => "nx"
  | external => "external"
  | unknown => "unknown"

structure ResolvedTarget where
  target : String
  tier : Tier
  deriving DecidableEq, Repr

namespace Config

def nxTargets? (c : Config) : Option (SortedMap String) := c.targets.bind (·.nx)

def externalTargets? (c : Config) : Option (SortedMap String) := c.targets.bind (·.external)

def featureTargets (c : Config) : SortedMap String := c.features.map (·.target)

def targetTiers (c : Config) : List (Tier × SortedMap String) :=
  [(.feature, c.featureTargets), (.nx, c.nxTargets?.getD ∅), (.external, c.externalTargets?.getD ∅)]

def resolveTarget (c : Config) (word : String) : ResolvedTarget :=
  (c.targetTiers.findSome? fun t => (t.2.get? word).map (⟨·, t.1⟩)).getD ⟨word, .unknown⟩

def featureVariant? (c : Config) (word : String) : Option String :=
  (c.features.get? word).bind (·.runFrom)

end Config

end Shorthand
