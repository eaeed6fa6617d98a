import Shorthand.Fragment
import Shorthand.Json.Value
/-!
The configuration: packages with their aliases, targets, flags in four sections, and commands of its
own. Every section may be absent. What its parts mean together is judged by `Config.Validation`.
-/
set_option autoImplicit false

namespace Shorthand

structure StructuredPackage where
  /-- The aliases of the package itself. -/
  aliases : List String := []
  variants : SortedMap String := ∅
  /-- The variant that the package's own aliases stand for; empty for none. -/
  default : String := ""
  deriving DecidableEq

inductive PackageEntry where
  | structured (package : StructuredPackage)
  | direct (project : String)
  | bucket (projects : SortedMap String)
  deriving DecidableEq

structure Targets where
  nx : Option (SortedMap String) := none
  external : Option (SortedMap String) := none
  deriving DecidableEq

structure FeatureTarget where
  target : String
  /-- The variant to run it from, if no alias names one. -/
  runFrom : Option String := none
  deriving DecidableEq

structure TemplateEntry where
  template : String
  position : Option Position := none
  deriving DecidableEq

inductive ShellTemplates where
  | one (entry : TemplateEntry)
  | many (entries : List TemplateEntry)
  deriving DecidableEq

def ShellTemplates.toList : ShellTemplates → List TemplateEntry
  | one entry => [entry]
  | many entries => entries

structure TemplateFlag where
  template : Option String := none
  position : Option Position := none
  /-- The variables of the flag with their values; a value given on the command line goes to the
  first. -/
  defaults : List (String × Json.Value) := []
  pwsh : Option ShellTemplates := none
  linux : Option ShellTemplates := none
  cmd : Option ShellTemplates := none
  deriving DecidableEq

inductive FlagEntry where
  | literal (template : String)
  | detailed (flag : TemplateFlag)
  deriving DecidableEq

structure Config where
  packages : SortedMap PackageEntry := ∅
  targets : Option Targets := none
  features : SortedMap FeatureTarget := ∅
  expandableFlags : SortedMap FlagEntry := ∅
  contextFlags : SortedMap FlagEntry := ∅
  internalFlags : SortedMap FlagEntry := ∅
  environmentFlags : SortedMap FlagEntry := ∅
  commands : SortedMap String := ∅
  deriving DecidableEq

instance : Inhabited Config := ⟨{}⟩

def FlagEntry.templates : FlagEntry → List String
  | literal template => [template]
  | detailed flag =>
    flag.template.toList ++
      [flag.pwsh, flag.linux, flag.cmd].flatMap fun entries =>
        (entries.map ShellTemplates.toList).getD [] |>.map (·.template)

end Shorthand
