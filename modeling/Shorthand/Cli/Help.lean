import Shorthand.Config.Validation
import Shorthand.Flag.Basic
import Shorthand.Terminal.Output
set_option autoImplicit false

namespace Shorthand.Help

def blank : Output := say []

def heading (title : String) : List Output := [blank, say [paint (.strong .green) title]]

def none : Output := say ["  ", paint .dimmed "(none)"]

def row (style : Style) (label : String) (rest : Line) : Output :=
  say ("  " :: column 15 style label :: " " :: rest)

def note (text : String) : Span := paint .dimmed ("[" ++ text ++ "]")

def usages : List (String × String) :=
  [("pae <alias> <target> [flags...]", "Run a target for one package"),
   ("pae <alias>", "Show what an alias resolves to"),
   ("pae ext|core|all <target> [aliases...] [flags...]", "Run a target across packages"),
   ("pae <command> [args...]", "Run an expandable command"),
   ("pae validate", "Check the configuration"),
   ("pae -d ...", "Enable debug logging")]

def usage : List Output :=
  [blank, say ["--- ", paint (.strong .yellow) "pae", " ---"]] ++
    usages.map (fun u => say ["  ", column 50 (.plain .cyan) u.1, " ", paint .dimmed u.2]) ++
      [blank]

def aliasRow (c : Config) (short : String) : Output :=
  match c.resolve short with
  | .ok r => row (.plain .cyan) short [r.project]
  | .error e => row (.plain .cyan) short [paint (.plain .red) e.message]

def aliases (c : Config) : List Output :=
  heading "Aliases:" ++
    if c.aliases.isEmpty then [none] else c.aliases.keys.map (aliasRow c)

def targets (c : Config) : List Output :=
  let rows := c.targetTiers.flatMap fun t =>
    t.2.entries.map fun e => row (.plain .cyan) e.1 [↑(e.2 ++ " "), note t.1.word]
  heading "Targets:" ++ if rows.isEmpty then [none] else rows

def flagLabel (key : String) : String := (if key.length = 1 then "-" else "--") ++ key

def hasShellTemplates (f : Flag) : Bool := f.pwsh.isSome || f.linux.isSome || f.cmd.isSome

def flagText (f : Flag) : String :=
  let text := " ".intercalate (f.templates.map (·.template))
  let text := if text.isEmpty && hasShellTemplates f then "(shell-specific)" else text
  if f.defaults.isEmpty then text
  else text ++ " (defaults: " ++ ", ".intercalate (f.defaults.map fun d => d.1 ++ "=" ++ d.2) ++ ")"

def flags (c : Config) : List Output :=
  heading "Flags:" ++
    if c.flagTable.isEmpty then [none]
    else c.flagTable.entries.map fun e =>
      row (.plain .cyan) (flagLabel e.1) [↑(flagText e.2 ++ " "), note e.2.kind.word]

def commands (c : Config) : List Output :=
  if c.commands.isEmpty then []
  else heading "Commands:" ++ c.commands.entries.map fun e => row (.plain .cyan) e.1 [e.2]

def problems (c : Config) : List Output :=
  if c.isValid then []
  else [blank, say [paint (.plain .red) ("The configuration has " ++ toString c.problems.length ++
    " problem(s). Run \x60pae validate\x60 for details.")]]

def all (c : Config) (path : String) : List Output :=
  usage ++ [row (.plain .blue) "config" [path]] ++
    aliases c ++ targets c ++ flags c ++ commands c ++ problems c ++
    [blank, say ["---------------------------------"]]

end Shorthand.Help
