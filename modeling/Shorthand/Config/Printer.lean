import Shorthand.Config.Basic
import Shorthand.Json.Printer
set_option autoImplicit false

namespace Shorthand

open Json (writeString writeList writeObject)

def writeNull : List Char := Json.Value.write .null

def writeOption {α : Type} (write : α → List Char) : Option α → List Char
  | none => writeNull
  | some a => write a

def writeMap {α : Type} (write : α → List Char) (m : SortedMap α) : List Char :=
  writeObject (m.entries.map fun e => (e.1, write e.2))

def StructuredPackage.write (p : StructuredPackage) : List Char :=
  writeObject [("aliases", writeList (p.aliases.map writeString)),
    ("variants", writeMap writeString p.variants), ("default", writeString p.default)]

def PackageEntry.write : PackageEntry → List Char
  | structured package => package.write
  | direct project => writeString project
  | bucket projects => writeMap writeString projects

def Targets.write (t : Targets) : List Char :=
  writeObject [("nx-targets", writeOption (writeMap writeString) t.nx),
    ("not-nx-target", writeOption (writeMap writeString) t.external)]

def FeatureTarget.write (t : FeatureTarget) : List Char :=
  writeObject (("run-target", writeString t.target) ::
    t.runFrom.toList.map fun variant => ("run-from", writeString variant))

def Position.write (p : Position) : List Char := writeString p.word

def TemplateEntry.write (t : TemplateEntry) : List Char :=
  writeObject [("template", writeString t.template),
    ("position", writeOption Position.write t.position)]

def ShellTemplates.write : ShellTemplates → List Char
  | one entry => entry.write
  | many entries => writeList (entries.map TemplateEntry.write)

def TemplateFlag.write (f : TemplateFlag) : List Char :=
  writeObject [("template", writeOption writeString f.template),
    ("position", writeOption Position.write f.position),
    ("defaults", Json.Value.write (.object f.defaults)),
    ("pwsh-template", writeOption ShellTemplates.write f.pwsh),
    ("linux-template", writeOption ShellTemplates.write f.linux),
    ("cmd-template", writeOption ShellTemplates.write f.cmd)]

def FlagEntry.write : FlagEntry → List Char
  | literal template => writeString template
  | detailed flag => flag.write

def Config.write (c : Config) : List Char :=
  writeObject [("nxPackages", writeMap PackageEntry.write c.packages),
    ("targets", writeOption Targets.write c.targets),
    ("feature-nxTargets", writeMap FeatureTarget.write c.features),
    ("expandable-flags", writeMap FlagEntry.write c.expandableFlags),
    ("context-aware-flags", writeMap FlagEntry.write c.contextFlags),
    ("internal-flags", writeMap FlagEntry.write c.internalFlags),
    ("env-setting-flags", writeMap FlagEntry.write c.environmentFlags),
    ("expandable-commands", writeMap writeString c.commands)]

def Config.toText (c : Config) : String := .ofList c.write

end Shorthand
