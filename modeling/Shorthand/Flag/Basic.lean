import Shorthand.Flag.Kind
import Shorthand.Json.Printer
import Shorthand.Shell.Kind
set_option autoImplicit false

namespace Shorthand

structure Flag where
  kind : FlagKind
  templates : List PlacedTemplate := []
  /-- The templates to take instead in a given shell. -/
  pwsh : Option (List PlacedTemplate) := none
  linux : Option (List PlacedTemplate) := none
  cmd : Option (List PlacedTemplate) := none
  /-- The variables of the flag with their values, in the order in which they were declared. -/
  defaults : List (String × String) := []
  deriving DecidableEq

abbrev FlagTable := SortedMap Flag

namespace Flag

def takesValue (f : Flag) : Bool := !f.defaults.isEmpty

def shellTemplates? (f : Flag) : Shell → Option (List PlacedTemplate)
  | .pwsh => f.pwsh
  | .linux => f.linux
  | .cmd => f.cmd
  | .unknown => none

def templatesFor (f : Flag) (shell : Shell) : List PlacedTemplate :=
  (f.shellTemplates? shell).getD f.templates

def defaultText : Json.Value → String
  | .string s => s
  | v => v.text

def ofEntry (kind : FlagKind) : FlagEntry → Flag
  | .literal template => { kind, templates := [⟨template, kind.position⟩] }
  | .detailed flag =>
    let position := flag.position.getD kind.position
    let placed (entries : ShellTemplates) : List PlacedTemplate :=
      entries.toList.map fun t => ⟨t.template, t.position.getD position⟩
    { kind
      templates := flag.template.toList.map (⟨·, position⟩)
      pwsh := flag.pwsh.map placed
      linux := flag.linux.map placed
      cmd := flag.cmd.map placed
      defaults := flag.defaults.map fun d => (d.1, defaultText d.2) }

end Flag

/-- The flags of a configuration. A key in several sections belongs to the last of them, in this
order. -/
def Config.flagTable (c : Config) : FlagTable :=
  [FlagKind.expandable, .contextAware, .environment, .internal].foldl
    (fun table kind => table.override ((c.flagsOf kind).map (Flag.ofEntry kind))) ∅

end Shorthand
