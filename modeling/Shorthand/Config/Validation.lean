import Shorthand.Alias
import Shorthand.Flag.Kind
import Shorthand.Target
/-!
What is wrong with a configuration as a whole. All checks are made and every problem is reported; a
configuration with problems must not be executed.
-/
set_option autoImplicit false

namespace Shorthand

inductive Problem where
  | commandIsAlias (name : String)
  | noAliases (package : String)
  | noVariants (package : String)
  | unknownDefault (package variant : String)
  | claimedTwice (short first second : String)
  | noTargets
  | targetTwice (word : String)
  | singleBrace (part key template : String)
  deriving DecidableEq, Repr

def Problem.message : Problem → String
  | commandIsAlias name =>
    "'" ++
      name ++ "' is both an expandable command and a package alias; the CLI cannot tell them apart."
  | noAliases package => "Package '" ++ package ++ "' must declare at least one alias in 'aliases'."
  | noVariants package =>
    "Package '" ++ package ++ "' must declare at least one entry in 'variants'."
  | unknownDefault package variant =>
    "Package '" ++ package ++
      "' has default variant '" ++ variant ++ "', which is not declared in 'variants'."
  | claimedTwice short first second =>
    "Alias '" ++ short ++ "' is claimed by both '" ++ first ++ "' and '" ++ second ++ "'."
  | noTargets => "The 'targets' section must define 'nx-targets' or 'not-nx-target'."
  | targetTwice word =>
    "Target shortcut '" ++ word ++ "' is defined in both 'nx-targets' and 'not-nx-target'."
  | singleBrace part key template =>
    part ++ "." ++ key ++ ": template '" ++ template ++
      "' uses deprecated single-brace syntax; use '\x7b\x7bname\x7d\x7d'."

/-- Whether an opening brace is left once the braces are taken in pairs from the left. -/
def hasSingleBrace : List Char → Bool
  | '\x7b' :: '\x7b' :: r => hasSingleBrace r
  | c :: r => c = '\x7b' || hasSingleBrace r
  | [] => false

namespace StructuredPackage

def aliasProblems (name : String) (p : StructuredPackage) : List Problem :=
  if p.aliases.isEmpty then [.noAliases name] else []

def variantProblems (name : String) (p : StructuredPackage) : List Problem :=
  if p.variants.isEmpty then [.noVariants name]
  else if !p.default.isEmpty && !p.variants.contains p.default then [.unknownDefault name p.default]
  else []

def problems (name : String) (p : StructuredPackage) : List Problem :=
  p.aliasProblems name ++ p.variantProblems name

end StructuredPackage

namespace Config

def commandProblems (c : Config) : List Problem :=
  (c.commands.keys.filter c.hasAlias).map .commandIsAlias

def packageProblems (c : Config) : List Problem :=
  c.structuredPackages.entries.flatMap fun e => e.2.problems e.1

def aliasProblems (c : Config) : List Problem :=
  c.lostClaims.map fun claim =>
    .claimedTwice claim.short ((c.aliasTarget? claim.short).elim "" AliasTarget.name)
      claim.target.name

def targetProblems (c : Config) : List Problem :=
  match c.targets with
  | none => []
  | some ⟨none, none⟩ => [.noTargets]
  | some ⟨some nx, some external⟩ => (nx.keys.filter external.contains).map .targetTwice
  | some _ => []

def templateProblems (c : Config) : List Problem :=
  [FlagKind.expandable, .contextAware, .internal, .environment].flatMap fun kind =>
    (c.flagsOf kind).entries.flatMap fun e =>
      (e.2.templates.filter fun t => hasSingleBrace t.toList).map (.singleBrace kind.word e.1)

def problems (c : Config) : List Problem :=
  c.commandProblems ++ c.packageProblems ++
    c.aliasProblems ++ c.targetProblems ++ c.templateProblems

def isValid (c : Config) : Bool := c.problems.isEmpty

end Config

end Shorthand
